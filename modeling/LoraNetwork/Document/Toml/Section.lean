import LoraNetwork.Document.Toml.Draft

/-!
# The sections of a TOML text

Headers cut a text into sections. A table is put together from the sections whose headers start with
the names that lead to it, each of which is taken once: its own section gives it settings, and the
others give it a member each, which is a table or a list of tables in turn.
-/

namespace LoraNetwork.Toml

/-- A header and the settings after it. What stands before the first header belongs to a section
with no names. -/
structure Section where
  /-- The names of the header. -/
  path : List String := []
  /-- Whether the header adds a table to a list. -/
  added : Bool := false
  /-- The settings. -/
  settings : Settings := []

/-- How far a table has been put together. -/
structure Place where
  /-- The names that lead to the table. -/
  names : List String
  /-- The section whose header may not come again: at first the one in which the table was found. -/
  owner : Nat
  /-- The first section that has not been looked at. -/
  next : Nat := 0
  /-- The section before which the table ends. -/
  stop : Nat

namespace Section

/-- The first section from one position up to another that is as it should be, with its position. -/
def find? (sections : List Section) (first stop : Nat) (fits : Section → Nat → Bool) :
    Option (Section × Nat) :=
  sections.zipIdx.find? fun entry =>
    first ≤ entry.2 && entry.2 < stop && fits entry.1 entry.2

/-- The next section of a table, apart from those that are taken. -/
def findNext? (sections : List Section) (place : Place) (taken : List Nat) :
    Option (Section × Nat) :=
  find? sections place.next place.stop fun s position =>
    !taken.contains position && place.names.isPrefixOf s.path

/-- The place after a section of the table. Another section with the header of the owner is one too
many; one with a shorter header becomes the owner. -/
def pass (sections : List Section) (place : Place) (s : Section) (position : Nat) :
    Option Place := do
  let owner ← sections[place.owner]?
  if place.owner ≠ position ∧ owner.path = s.path then none
  else if s.path.length < owner.path.length then
    some { place with owner := position, next := position + 1 }
  else some { place with next := position + 1 }

mutual

/-- Adds settings and then what later sections give to the members of a table. The result is the
value of the table with the sections that are taken. -/
def table? (sections : List Section) :
    Nat → Place → Settings → List (String × Value) → List Nat → Option (Value × List Nat)
  | 0, _, _, _, _ => none
  | fuel + 1, place, settings, members, taken =>
    if members.isEmpty && settings.startWithTime then
      settings.firstTime?.map fun v => (v, taken)
    else do
      let members := members ++ (← memberValues? (members.map Prod.fst) settings)
      match findNext? sections place taken with
      | none => some (.table members, taken)
      | some (s, position) => do
        let after ← pass sections place s position
        match s.path.drop place.names.length with
        | [] =>
          if s.added then none
          else table? sections fuel after s.settings members (position :: taken)
        | name :: deeper =>
          if (members.map Prod.fst).contains name || (members.isEmpty && name = timeName) then none
          else do
            let inner : Place :=
              { names := place.names ++ [name], owner := position, stop := place.stop }
            let (v, taken) ←
              if s.added && deeper.isEmpty then
                (items? sections fuel inner taken).map fun read => (.list read.1, read.2)
              else table? sections fuel inner [] [] taken
            table? sections fuel after [] (members ++ [(name, v)]) taken

/-- The tables of a list from the one that the owner of the place adds. Each ends where the next
begins. -/
def items? (sections : List Section) :
    Nat → Place → List Nat → Option (List Value × List Nat)
  | 0, _, _ => none
  | fuel + 1, place, taken => do
    let s ← sections[place.owner]?
    let following := find? sections (place.owner + 1) place.stop fun other _ =>
      other.added && other.path = s.path
    let stop := (following.map Prod.snd).getD place.stop
    let (item, taken) ←
      table? sections fuel { place with stop := stop } s.settings [] (place.owner :: taken)
    match following with
    | none => return ([item], taken)
    | some (_, position) => do
      let (items, taken) ← items? sections fuel { place with owner := position } taken
      return (item :: items, taken)

end

/-- A bound on how deep the sections lead: every step takes a section or goes on to the next, and
every table on the way has one name more. -/
def depthBound (sections : List Section) : Nat :=
  let size := sections.foldl (fun n s => n + s.path.length + 1) 1
  (3 * size + 2) * (2 * size + 2)

/-- The value of a text: its outermost table. -/
def root? (sections : List Section) : Option Value :=
  (table? sections (depthBound sections) ⟨[], 0, 0, sections.length⟩ [] [] []).map Prod.fst

end Section

end LoraNetwork.Toml
