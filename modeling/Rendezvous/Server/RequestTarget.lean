/-
# Targets of requests

A request says by its target what it is about. A target is a path, which a query and a
fragment may follow; or an address, in which a scheme and an authority stand before the
path; or an authority alone; or an asterisk. Whatever is neither of these is no target, and
a request that has it is not looked at. How long a target may be is left out.

All that counts of a target is its path. Nothing in it is decoded. An address that ends
with its authority has the path of the root, and an authority alone has the empty path.
-/

namespace Rendezvous.RequestTarget

/-- Whether a character may stand in a target: neither blanks nor control characters do. -/
def isGraphic (char : Char) : Bool := ' ' < char && char ≠ '\x7f'

/-- Whether a character may stand in a path. -/
def isPathChar (char : Char) : Bool := isGraphic char && char ∉ ['<', '>', '\x60']

/-- Whether a character may stand in a query. -/
def isQueryChar (char : Char) : Bool := isGraphic char && char ∉ ['\x22', '<', '>']

/-- Whether a character ends the path of a target. -/
def endsPath (char : Char) : Bool := char = '?' || char = '#'

/-- The query of a path, without the fragment. -/
def queryOf (text : List Char) : List Char :=
  match text.dropWhile fun char => !endsPath char with
  | '?' :: rest => rest.takeWhile (· ≠ '#')
  | _ => []

/-- A path without the query and the fragment behind it, if all three may be what they are. -/
def pathOf? (text : List Char) : Option (List Char) :=
  let path := text.takeWhile fun char => !endsPath char
  if path.all isPathChar && (queryOf text).all isQueryChar && text.all isGraphic then some path
  else none

/-- There is no mark of a query or a fragment in a path. -/
theorem not_endsPath_of_pathOf? {text path : List Char} (found : pathOf? text = some path) :
    ∀ char ∈ path, endsPath char = false := by
  intro char listed
  simp only [pathOf?] at found
  split at found
  · cases found
    simpa using List.all_eq_true.mp List.all_takeWhile char listed
  · cases found

/-! ## Authorities -/

/-- What has been seen of an authority: somebody's name and an at sign, which may be missing,
then a host, then a colon and a port, which may be missing. -/
structure Authority where
  /-- How many colons there were since the last at sign or closing bracket. -/
  colons : Nat
  /-- Whether there was a percent sign since then. -/
  isEncoded : Bool
  /-- Whether a bracket was opened. -/
  isOpened : Bool
  /-- Whether it was closed. -/
  isClosed : Bool
  /-- Whether an at sign was the last character. -/
  endsWithAt : Bool
  deriving DecidableEq, Repr

namespace Authority

/-- Nothing has been seen. -/
def start : Authority := ⟨0, false, false, false, false⟩

/-- How many colons may stand next to each other in a host in brackets. -/
def maximalColons : Nat := 8

/-- Whether a character may stand in a name or a host and has no meaning of its own there. -/
def isPlain (char : Char) : Bool :=
  char.isAlphanum ||
    char ∈ ['-', '.', '_', '~', '!', '$', '&', '\x27', '(', ')', '*', '+', ',', ';', '=']

/-- What has been seen after one character more, if it may stand there. -/
def step? (seen : Authority) (char : Char) : Option Authority :=
  let passed := { seen with endsWithAt := false }
  if char = ':' then
    if seen.colons < maximalColons then some { passed with colons := seen.colons + 1 } else none
  else if char = '[' then
    if seen.isEncoded || seen.isOpened then none else some { passed with isOpened := true }
  else if char = ']' then
    if !seen.isOpened || seen.isClosed then none
    else some { passed with isClosed := true, colons := 0, isEncoded := false }
  else if char = '@' then
    some { passed with colons := 0, isEncoded := false, endsWithAt := true }
  else if char = '%' then some { passed with isEncoded := true }
  else if isPlain char then some passed
  else none

/-- Whether an authority may end here. -/
def mayEnd (seen : Authority) : Bool :=
  seen.isOpened = seen.isClosed && seen.colons ≤ 1 && !seen.isEncoded && !seen.endsWithAt

end Authority

/-- Whether a text is an authority. -/
def isAuthority (text : List Char) : Bool :=
  (text.foldlM Authority.step? .start).any Authority.mayEnd

/-! ## Targets -/

/-- Whether a character may stand in a scheme. -/
def isSchemeChar (char : Char) : Bool := char.isAlphanum || char ∈ ['+', '-', '.']

/-- What follows a scheme and the mark behind it, if a text begins with these. -/
def afterScheme? (text : List Char) : Option (List Char) :=
  match text.dropWhile isSchemeChar with
  | ':' :: '/' :: '/' :: located => some located
  | _ => none

/-- Whether a character ends the authority of an address. -/
def endsAuthority (char : Char) : Bool := char = '/' || endsPath char

/-- The path of an address, without its scheme. -/
def pathOfAddress? (located : List Char) : Option (List Char) :=
  let authority := located.takeWhile fun char => !endsAuthority char
  if authority.isEmpty || !isAuthority authority then none
  else
    (pathOf? (located.dropWhile fun char => !endsAuthority char)).map fun path =>
      if path.isEmpty then ['/'] else path

/-- The path of a target, if it is one. -/
def path? (target : String) : Option String :=
  let path :=
    match target.toList with
    | [] => none
    | ['*'] => some ['*']
    | '/' :: rest => pathOf? ('/' :: rest)
    | text =>
      match afterScheme? text with
      | some located => pathOfAddress? located
      | none => if isAuthority text then some [] else none
  path.map String.ofList

theorem not_endsPath_of_pathOfAddress? {located path : List Char}
    (found : pathOfAddress? located = some path) : ∀ char ∈ path, endsPath char = false := by
  simp only [pathOfAddress?] at found
  split at found
  · cases found
  · obtain ⟨behind, read, rfl⟩ := Option.map_eq_some_iff.mp found
    split
    · simp [endsPath]
    · exact not_endsPath_of_pathOf? read

/-- Nothing of a query or a fragment is in the path of a target. -/
theorem not_endsPath_of_path? {target path : String} (found : path? target = some path) :
    ∀ char ∈ path.toList, endsPath char = false := by
  obtain ⟨chars, read, rfl⟩ := Option.map_eq_some_iff.mp found
  rw [String.toList_ofList]
  split at read
  · cases read
  · cases read
    simp [endsPath]
  · exact not_endsPath_of_pathOf? read
  · split at read
    · exact not_endsPath_of_pathOfAddress? read
    · split at read
      · cases read
        exact List.forall_mem_nil _
      · cases read

example : ["/call/a?b#<", "*", "http://me@[::1]:80?x", "room", "room:1", "/call/a b", "/<",
    "a%41", "http:///call/a"].map path? =
      [some "/call/a", some "*", some "/", some "", some "", none, none, none, none] := by
  decide

end Rendezvous.RequestTarget
