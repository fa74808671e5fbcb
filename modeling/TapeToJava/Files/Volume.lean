import TapeToJava.Files.Fault
import TapeToJava.Files.Path
import TapeToJava.Text.Slice

/-! A file system held as a value: directories and files with their modes, and how paths lead to them.

The user may do everything, there are no links, and there is always room. So a request fails only for where its path
leads, or does not lead: once a file has been created, writing to it, giving it permissions and removing it cannot
fail, and such faults are outside what a volume can tell. -/

namespace TapeToJava

/-- The name of a file or a directory. Temporary files have names that no path can spell. -/
inductive Name where
  | text (chars : List Char)
  | temporary (id : Nat)
  deriving DecidableEq, Repr

/-- A place in a volume: the names that lead to it, the innermost first. -/
abbrev Location := List Name

/-- What is at a place. -/
inductive Entry where
  | directory (mode : Nat)
  | file (mode : Nat) (bytes : List UInt8)
  deriving DecidableEq, Repr

namespace Entry

def mode : Entry → Nat
  | directory m => m
  | file m _ => m

/-- The entry with other permissions. -/
def withMode (m : Nat) : Entry → Entry
  | directory _ => directory m
  | file _ bytes => file m bytes

def isDirectory : Entry → Bool
  | directory _ => true
  | file _ _ => false

end Entry

/-- A file system: its entries with their places, and the directory in which relative paths begin. The
root needs no entry. -/
structure Volume where
  entries : List (Location × Entry)
  workingDirectory : Location
  deriving DecidableEq, Repr

namespace Volume

/-- A file system in which there is nothing but the root. -/
def empty : Volume := ⟨[], []⟩

/-- The mode of a directory that is not given another one. -/
def directoryMode : Nat := 0o755

/-- What is at a place. -/
def get? (v : Volume) (loc : Location) : Option Entry :=
  if loc = [] then some (.directory directoryMode) else v.entries.lookup loc

/-- The volume without what is at a place. -/
def erase (v : Volume) (loc : Location) : Volume :=
  { v with entries := v.entries.filter fun e => e.1 ≠ loc }

/-- The volume with an entry at a place, instead of what was there. -/
def insert (v : Volume) (loc : Location) (e : Entry) : Volume :=
  { v with entries := (loc, e) :: (v.erase loc).entries }

/-! ### Paths -/

/-- The greatest number of bytes of a name. -/
def maxName : Nat := 255

/-- The greatest number of bytes of a path. -/
def maxPath : Nat := 4095

/-- The place that a piece of a path leads to. Every piece starts out from a directory. -/
def enter (v : Volume) (loc : Location) (piece : List Char) : Except Fault Location :=
  match v.get? loc with
  | some (.directory _) =>
    if piece = [] ∨ piece = ['.'] then .ok loc
    else if piece = ['.', '.'] then .ok loc.tail
    else if maxName < Text.byteLength piece then .error .nameTooLong
    else if (v.get? (.text piece :: loc)).isSome then .ok (.text piece :: loc)
    else .error .notFound
  | _ => .error .notADirectory

/-- The directory in which a path begins: the root when a slash is its first character. -/
def origin (v : Volume) (path : List Char) : Location :=
  if path.head? = some '/' then [] else v.workingDirectory

/-- The place that the pieces of a path lead to. -/
def walk (v : Volume) : Location → List (List Char) → Except Fault Location
  | loc, [] => .ok loc
  | loc, p :: ps =>
    match v.enter loc p with
    | .error fault => .error fault
    | .ok next => v.walk next ps

/-- The faults of a path that do not depend on the volume. -/
def checkPath (path : List Char) : Except Fault Unit :=
  if '\x00' ∈ path then .error .nulInPath
  else if path = [] then .error .notFound
  else if maxPath < Text.byteLength path then .error .nameTooLong
  else .ok ()

/-- The place of something that exists. -/
def locate (v : Volume) (path : List Char) : Except Fault Location :=
  match checkPath path with
  | .error fault => .error fault
  | .ok () => v.walk (v.origin path) (Text.pieces '/' path)

/-- The last piece of a path and the directory it is looked for in. -/
structure Target where
  directory : Location
  /-- The last piece; empty for a path that consists of slashes only. -/
  piece : List Char
  /-- Whether a slash follows the last piece. -/
  slash : Bool
  deriving DecidableEq, Repr

/-- The place in which the last piece of a path is to be looked for, without a look for it. -/
def target (v : Volume) (path : List Char) : Except Fault Target :=
  match checkPath path with
  | .error fault => .error fault
  | .ok () =>
    let ascending := (Text.pieces '/' path).reverse
    match ascending.dropWhile (· == []) with
    | [] => .ok ⟨[], [], true⟩
    | piece :: before =>
      match v.walk (v.origin path) (before.reverse ++ [[]]) with
      | .error fault => .error fault
      | .ok directory => .ok ⟨directory, piece, ascending.head? == some []⟩

/-- Whether a piece is the name of an entry. -/
def isName (piece : List Char) : Bool :=
  piece ≠ [] && piece ≠ ['.'] && piece ≠ ['.', '.']

/-! ### Requests -/

/-- The entry that a path leads to. -/
def stat (v : Volume) (path : String) : Except Fault Entry :=
  match v.locate path.toList with
  | .error fault => .error fault
  | .ok loc =>
    match v.get? loc with
    | none => .error .notFound
    | some e => .ok e

/-- The bytes of a file. -/
def readFile (v : Volume) (path : String) : Except Fault (List UInt8) :=
  match v.stat path with
  | .error fault => .error fault
  | .ok (.directory _) => .error .isADirectory
  | .ok (.file _ bytes) => .ok bytes

/-- The number that a name uses up among those of temporary files. -/
def usedBy : Name → Nat
  | .text _ => 0
  | .temporary id => id + 1

/-- A number that no temporary file has. -/
def freshId (v : Volume) : Nat :=
  (v.entries.flatMap fun e => e.1.map usedBy).foldl max 0

/-- The number of bytes that the name of a temporary file adds to its directory's path. -/
def temporaryNameBytes : Nat := 11

/-- The mode of a temporary file. -/
def temporaryMode : Nat := 0o600

/-- Creates a temporary file in a directory. -/
def createTemporary (v : Volume) (directory : List Char) (bytes : List UInt8) :
    Except Fault (Location × Volume) :=
  match checkPath directory with
  | .error fault => .error fault
  | .ok () =>
    if maxPath < Text.byteLength directory + temporaryNameBytes then .error .nameTooLong
    else match v.walk (v.origin directory) (Text.pieces '/' directory ++ [[]]) with
      | .error fault => .error fault
      | .ok loc =>
        let temporary := Name.temporary v.freshId :: loc
        .ok (temporary, v.insert temporary (.file temporaryMode bytes))

/-- Gives a file other permissions. -/
def setMode (v : Volume) (loc : Location) (mode : Nat) : Volume :=
  match v.get? loc with
  | none => v
  | some e => v.insert loc (e.withMode mode)

/-- Moves the file at a place to a path, over a file that is there. -/
def rename (v : Volume) (loc : Location) (path : String) : Except Fault Volume :=
  match v.target path.toList with
  | .error fault => .error fault
  | .ok t =>
    if !isName t.piece then .error .busy
    else match v.get? loc with
      | none => .error .notFound
      | some e =>
        if maxName < Text.byteLength t.piece then .error .nameTooLong
        else if t.slash then .error .notADirectory
        else match v.get? (.text t.piece :: t.directory) with
          | some (.directory _) => .error .isADirectory
          | _ => .ok ((v.erase loc).insert (.text t.piece :: t.directory) e)

/-- Removes the file that a path leads to. -/
def unlink (v : Volume) (path : String) : Except Fault Volume :=
  match v.target path.toList with
  | .error fault => .error fault
  | .ok t =>
    if !isName t.piece then .error .isADirectory
    else if maxName < Text.byteLength t.piece then .error .nameTooLong
    else match v.get? (.text t.piece :: t.directory) with
      | none => .error .notFound
      | some (.directory _) => .error .isADirectory
      | some (.file _ _) =>
        if t.slash then .error .notADirectory else .ok (v.erase (.text t.piece :: t.directory))

/-! ### Entries after a change -/

theorem lookup_cons_entry (entries : List (Location × Entry)) (loc k : Location) (e : Entry) :
    ((loc, e) :: entries).lookup k = if k = loc then some e else entries.lookup k := by
  by_cases h : k = loc
  · simp [h]
  · have hb : (k == loc) = false := by simpa using h
    simp [List.lookup_cons, hb, h]

theorem lookup_erase (v : Volume) (loc k : Location) :
    (v.erase loc).entries.lookup k = if k = loc then none else v.entries.lookup k := by
  unfold erase
  induction v.entries with
  | nil => simp
  | cons e es ih =>
    obtain ⟨l, x⟩ := e
    by_cases hl : l = loc
    · subst hl
      simp only [ne_eq, not_true_eq_false, decide_false, Bool.false_eq_true, not_false_eq_true,
        List.filter_cons_of_neg, lookup_cons_entry] at ih ⊢
      rw [ih]
      by_cases hk : k = l <;> simp [hk]
    · simp only [ne_eq, hl, not_false_eq_true, decide_true, List.filter_cons_of_pos,
        lookup_cons_entry] at ih ⊢
      rw [ih]
      by_cases hk : k = l
      · subst hk
        simp [hl]
      · simp [hk]

@[simp] theorem get?_erase (v : Volume) {loc : Location} (h : loc ≠ []) (k : Location) :
    (v.erase loc).get? k = if k = loc then none else v.get? k := by
  unfold get?
  by_cases hk : k = []
  · subst hk
    simp [Ne.symm h]
  · simp [hk, lookup_erase]

@[simp] theorem get?_insert (v : Volume) {loc : Location} (h : loc ≠ []) (e : Entry) (k : Location) :
    (v.insert loc e).get? k = if k = loc then some e else v.get? k := by
  unfold get? insert
  by_cases hk : k = []
  · subst hk
    simp [Ne.symm h]
  · by_cases hl : k = loc <;> simp [hk, hl, h, lookup_cons_entry, lookup_erase]

end Volume

end TapeToJava
