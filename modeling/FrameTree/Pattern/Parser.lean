import FrameTree.Pattern.Bracket

/-!
# Reading patterns

A pattern is alternatives between bars; an alternative is a row of pieces; a piece is an atom with a
quantifier or without.

**Atoms.** Characters, classes, escapes, the point, the anchors `^` and `$`, and groups in
parentheses: numbered ones, named ones, and those that only hold together, perhaps with options of
their own. In the extended notation also looking around, atomic groups and pieces to be matched
again.

**Options.** `i` disregards case, `m` lets the anchors hold at lines, `s` lets the point match a
line feed, `U` swaps greedy and lazy, `x` passes over blanks and comments. Options given alone hold
from there on, until a group that only holds together closes.

**Quantifiers.** `*`, `+`, `?` or counts in braces; a question mark after it makes it lazy, a plus
sign atomic. Braces that hold no counts stand for themselves.

Main definition: `Pattern.parse?`.
-/

namespace FrameTree.Pattern

/-! ## Options -/

/-- The options in force. -/
structure Options where
  fold : Bool
  lines : Bool
  dotAll : Bool
  swapped : Bool
  spaced : Bool
deriving DecidableEq, Repr, Inhabited

namespace Options

/-- No option is on. -/
def initial : Options := ⟨false, false, false, false, false⟩

/-- The options with the one of a letter turned on or off. -/
def set? (o : Options) (letter : Char) (on : Bool) : Option Options :=
  match letter with
  | 'i' => some { o with fold := on }
  | 'm' => some { o with lines := on }
  | 's' => some { o with dotAll := on }
  | 'U' => some { o with swapped := on }
  | 'x' => some { o with spaced := on }
  | 'u' => if on then some o else none
  | _ => none

/-- Options up to a closing parenthesis or a colon, given the signs before them, the last one first.
Also tells whether a colon closes them. In the plain notation no sign is repeated and a hyphen is
followed by an option. -/
def read (d : Dialect) (o : Options) (before : List Char) :
    List Char → Option (Options × Bool × List Char)
  | [] => none
  | c :: cs =>
    let dangling := before.head? == some '-' && (d.isPlain || before.length == 1)
    if c == ')' then if before.isEmpty || dangling then none else some (o, false, cs)
    else if c == ':' then if dangling then none else some (o, true, cs)
    else if before.contains c && (d.isPlain || c == '-') then none
    else if c == '-' then read d o (c :: before) cs
    else
      match o.set? c (!before.contains '-') with
      | some o => read d o (c :: before) cs
      | none => none

end Options

/-! ## Reading -/

/-- How far the reading has come. -/
structure Progress where
  rest : List Char
  options : Options
  /-- The number of groups opened so far. -/
  groups : Nat
  /-- The names of groups with their numbers. -/
  names : List (String × Nat)
  /-- A piece to be matched again was given by a number. -/
  numbered : Bool
deriving Repr, Inhabited

abbrev Reader := StateT Progress Parsing

namespace Reader

/-- Goes on with the given characters. -/
def goOn (rest : List Char) : Reader Unit := modify fun s => { s with rest }

/-- A blank that is passed over. -/
def isBlank (c : Char) : Bool := [' ', '\t', '\n', '\r'].contains c

/-- The characters after blanks and comments. -/
def afterBlanks : (inComment : Bool) → List Char → List Char
  | _, [] => []
  | true, c :: cs => afterBlanks (c != '\n') cs
  | false, c :: cs =>
    if c == '#' then afterBlanks true cs
    else if isBlank c then afterBlanks false cs
    else c :: cs

/-- Passes over blanks and comments, where they do not count. -/
def skip : Reader Unit :=
  modify fun s => if s.options.spaced then { s with rest := afterBlanks false s.rest } else s

/-! ## Quantifiers -/

/-- The largest count. -/
def maxCount : Nat := 4294967295

/-- A number, with blanks before and after it. -/
def number? (blank : Char → Bool) (cs : List Char) : Option (Nat × List Char) :=
  match (cs.dropWhile blank).span Char.isDigit with
  | ([], _) => none
  | (digits, rest) =>
    let n := Text.decimalValue digits
    if n ≤ maxCount then some (n, rest.dropWhile blank) else none

/-- Counts after their opening brace, with the blanks that may stand between them. The lower one may
be left out if `openLow`. -/
def counts? (blank : Char → Bool) (openLow : Bool) (cs : List Char) :
    Option (Nat × Option Nat × List Char) := do
  let (low, rest) ←
    match number? blank cs, cs.dropWhile blank with
    | some r, _ => some r
    | none, ',' :: rest => if openLow then some (0, ',' :: rest) else none
    | none, _ => none
  match rest with
  | '\x7d' :: rest => return (low, some low, rest)
  | ',' :: rest =>
    match number? blank rest, rest.dropWhile blank with
    | some (high, '\x7d' :: rest), _ => return (low, some high, rest)
    | none, '\x7d' :: rest => return (low, none, rest)
    | _, _ => none
  | _ => none

/-- The counts after an opening brace, none if the brace stands for itself. The plain notation has
counts after every brace, but with blanks between them they are not taken as such. -/
def countsOrBrace (d : Dialect) (o : Options) (cs : List Char) :
    Parsing (Option (Nat × Option Nat × List Char)) :=
  if d.isPlain && (counts? Text.whiteSpace.holds false cs).isNone then malformed
  else .ok (counts? (fun c => o.spaced && isBlank c) (!d.isPlain) cs)

/-- Anchors and looking around take no quantifier. -/
def isRepeatable : Pattern → Bool
  | .empty | .anchor _ | .look _ _ _ => false
  | _ => true

/-- A pattern with a quantifier, given the characters after it. -/
def quantified (p : Pattern) (low : Nat) (high : Option Nat) (rest : List Char) :
    Reader Pattern := do
  if !isRepeatable p || high.any (· < low) then malformed
  goOn rest
  skip
  let s ← get
  let (lazy, rest) :=
    match s.rest with
    | '?' :: rest => (true, rest)
    | rest => (false, rest)
  let repeated := Pattern.times p low high (lazy == s.options.swapped)
  match rest with
  | '+' :: rest =>
    goOn rest
    return .atomic repeated
  | rest =>
    goOn rest
    return repeated

/-! ## Groups -/

/-- What an opening parenthesis opens. -/
inductive Opening where
  | numbered (number : Nat)
  /-- Holds together, and gives back the options that were in force before it. -/
  | scope (before : Options)
  | look (direction : Direction) (negated : Bool)
  | atomic
  /-- Options that have been read, or a piece that is given by its name: nothing is open. -/
  | done (p : Pattern)

/-- Opens a group with a number. -/
def openGroup : Reader Nat := do
  let n := (← get).groups + 1
  modify fun s => { s with groups := n }
  return n

/-- A character of the name of a group. -/
def isNameChar (c : Char) : Bool :=
  c == '_' || Text.alphabetic.holds c || numbers.contains (Text.category c)
where
  numbers : List Text.Category := [.decimalNumber, .letterNumber, .otherNumber]

/-- Opens a group with a name, given the characters from the name on. In the plain notation a name
starts with a letter or a low line and is not given twice. -/
def openNamed (d : Dialect) (cs : List Char) : Reader Opening := do
  match cs.span isNameChar with
  | (c :: cs, '>' :: rest) =>
    let name := String.ofList (c :: cs)
    let starts := c == '_' || Text.alphabetic.holds c
    if d.isPlain && (!starts || ((← get).names.lookup name).isSome) then malformed
    let n ← openGroup
    modify fun s => { s with names := (name, n) :: s.names, rest }
    return .numbered n
  | _ => malformed

/-- The group of a number, which has to be open already. -/
def againNumber (number : Nat) (rest : List Char) : Reader Pattern := do
  let s ← get
  if number > s.groups then malformed
  goOn rest
  return .again number s.options.fold

/-- The group of a name between the present place and a closing sign. -/
def againNamed (close : Char) (cs : List Char) : Reader Pattern := do
  match cs.span (· != close) with
  | (name, _ :: rest) =>
    match (← get).names.lookup (String.ofList name) with
    | some n => againNumber n rest
    | none =>
      if name.isEmpty || !name.all Char.isDigit then malformed
      else againNumber (Text.decimalValue name) rest
  | (_, []) => malformed

/-- What stands behind an opening parenthesis. -/
def opening (d : Dialect) : Reader Opening := do
  skip
  let s ← get
  let beyond (rest : List Char) (opening : Opening) : Reader Opening := do
    if d.isPlain then throw (.extended s.rest.length)
    goOn rest
    return opening
  match s.rest with
  | '?' :: '=' :: rest => beyond rest (.look .ahead false)
  | '?' :: '!' :: rest => beyond rest (.look .ahead true)
  | '?' :: '<' :: '=' :: rest => beyond rest (.look .behind false)
  | '?' :: '<' :: '!' :: rest => beyond rest (.look .behind true)
  | '?' :: '<' :: rest | '?' :: 'P' :: '<' :: rest => openNamed d rest
  | '?' :: 'P' :: '=' :: rest =>
    if d.isPlain then malformed else return .done (← againNamed ')' rest)
  | '?' :: '>' :: rest =>
    if d.isPlain then malformed
    goOn rest
    return .atomic
  | '?' :: rest =>
    match s.options.read d [] rest with
    | some (options, opens, rest) =>
      set { s with options, rest }
      return if opens then .scope s.options else .done .empty
    | none => malformed
  | _ => return .numbered (← openGroup)

/-- Looking behind needs a pattern of one width, or alternatives with a width each. -/
def lookBehind? (negated : Bool) (p : Pattern) : Option Pattern :=
  if p.width?.isSome then some (.look .behind negated p)
  else
    match p with
    | .alt p q => do
      let p ← if p.width?.isSome then some (.look .behind negated p) else none
      let q ← lookBehind? negated q
      return if negated then .seq p q else .alt p q
    | _ => none

/-- The group that was opened, with its body. -/
def closed (opening : Opening) (p : Pattern) : Reader Pattern := do
  match opening with
  | .numbered n => return .group n p
  | .scope before =>
    modify fun s => { s with options := before }
    return p
  | .look .ahead negated => return .look .ahead negated p
  | .look .behind negated => required (lookBehind? negated p)
  | .atomic => return .atomic p
  | .done p => return p

/-! ## Atoms -/

/-- A character that matches itself. -/
def literal (c : Char) (rest : List Char) : Reader Pattern := do
  goOn rest
  return .char (← get).options.fold (.single c)

/-- An escape after its backslash. -/
def escaped (d : Dialect) (cs : List Char) : Reader Pattern := do
  match cs with
  | 'k' :: '<' :: rest => if d.isPlain then malformed else againNamed '>' rest
  | cs =>
    let digits := cs.takeWhile Char.isDigit
    if !d.isPlain && !digits.isEmpty then
      modify fun s => { s with numbered := true }
      againNumber (Text.decimalValue digits) (cs.drop digits.length)
    else
      let (e, rest) ← escape d false cs
      goOn rest
      match e with
      | .literal c => literal c rest
      | .oneOf cls => return .char (← get).options.fold cls
      | .anchor a => return .anchor a

/-- The greatest number of groups inside each other. -/
def maxDepth : Nat := 63

mutual

/-- Alternatives, as far as they go. -/
def alternatives (d : Dialect) : (fuel depth : Nat) → Reader Pattern
  | 0, _ => malformed
  | fuel + 1, depth => do
    let p ← row d fuel depth false
    skip
    match (← get).rest with
    | '|' :: rest =>
      goOn rest
      return .alt p (← alternatives d fuel depth)
    | _ => return p

/-- A row of pieces, as far as it goes. The piece before it is `behind`, if it matched anything. -/
def row (d : Dialect) : (fuel depth : Nat) → (behind : Bool) → Reader Pattern
  | 0, _, _ => malformed
  | fuel + 1, depth, behind => do
    let before := (← get).rest.length
    let p ← piece d fuel depth behind
    if (← get).rest.length = before then return .empty
    let q ← row d fuel depth !(p matches .empty)
    return p.followedBy q

/-- An atom with the quantifier after it. -/
def piece (d : Dialect) : (fuel depth : Nat) → (behind : Bool) → Reader Pattern
  | 0, _, _ => malformed
  | fuel + 1, depth, behind => do
    let p ← atom d fuel depth behind
    skip
    let s ← get
    match s.rest with
    | '*' :: rest => quantified p 0 none rest
    | '+' :: rest => quantified p 1 none rest
    | '?' :: rest => quantified p 0 (some 1) rest
    | '\x7b' :: rest =>
      match ← countsOrBrace d s.options rest with
      | some (low, high, rest) => quantified p low high rest
      | none => return p
    | _ => return p

/-- An atom, or an empty pattern where none stands. -/
def atom (d : Dialect) : (fuel depth : Nat) → (behind : Bool) → Reader Pattern
  | 0, _, _ => malformed
  | fuel + 1, depth, behind => do
    skip
    let s ← get
    let o := s.options
    match s.rest with
    | [] => return .empty
    | c :: rest =>
      match c with
      | '*' | '+' | '?' | '|' | ')' => return .empty
      | '.' =>
        goOn rest
        return .char false (if o.dotAll then .property .any else .notLineFeed)
      | '^' =>
        goOn rest
        return .anchor (if o.lines then .lineStart else .textStart)
      | '$' =>
        goOn rest
        return .anchor (if o.lines then .lineEnd else .textEnd)
      | '(' =>
        if depth ≥ maxDepth then malformed
        goOn rest
        match ← opening d with
        | .done p => return p
        | opened =>
          let p ← alternatives d fuel (depth + 1)
          skip
          match (← get).rest with
          | ')' :: rest =>
            goOn rest
            closed opened p
          | _ => malformed
      | '\\' => escaped d rest
      | '[' =>
        let (cls, rest) ← bracketClass d rest
        goOn rest
        return .char o.fold cls
      | '\x7b' =>
        if d.isPlain && !behind then malformed
        let _ ← countsOrBrace d o rest
        literal c rest
      | c => literal c rest

end

end Reader

/-- The pattern that a text writes in a notation. The fuel covers four steps for each character. -/
def parseIn (d : Dialect) (cs : List Char) : Parsing Pattern := do
  let start : Progress := ⟨cs, .initial, 0, [], false⟩
  let (p, s) ← (Reader.alternatives d (4 * cs.length + 8) 0).run start
  if s.rest.isEmpty && !(s.numbered && !s.names.isEmpty) then return p else malformed

/-- The pattern that a text writes. -/
def parse? (text : String) : Option Pattern :=
  let cs := text.toList
  match parseIn .plain cs with
  | .ok p => some p
  | .error .malformed => none
  | .error (.extended left) => (parseIn (.extended left) cs).toOption

end FrameTree.Pattern
