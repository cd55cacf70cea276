import FrameTree.Main
import FrameTree.Session
import FrameTree.Proofs.Accounting
import FrameTree.Proofs.AnyOrder
import FrameTree.Proofs.Authored
import FrameTree.Proofs.Circles
import FrameTree.Proofs.Guards
import FrameTree.Proofs.Integrity
import FrameTree.Proofs.Listing
import FrameTree.Proofs.OnDisk
import FrameTree.Proofs.Placeholders
import FrameTree.Proofs.Recoded
import FrameTree.Proofs.Reordered
import FrameTree.Proofs.Runs
import FrameTree.Proofs.Saved
import FrameTree.Proofs.Shapes
import FrameTree.Proofs.Skeleton
import FrameTree.Proofs.Unindexed
