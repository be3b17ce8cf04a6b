import NamingLint.Text.Native
import NamingLint.Text.Pieces

/-!
Paths as they are written. A path keeps its spelling; two paths are the same place by name when
their components agree. Repeated slashes and dots inside or at the end leave no component, a dot at
the beginning does.
-/

namespace NamingLint

/-- The order of the first difference; a list comes before those that go on from it. -/
def lexLe {α : Type} [DecidableEq α] (le : α → α → Bool) : List α → List α → Bool
  | [], _ => true
  | _ :: _, [] => false
  | a :: as, b :: bs => if a = b then lexLe le as bs else le a b

structure Path where
  spelling : NativeText
  deriving Repr, DecidableEq

namespace Path

abbrev slash : UInt8 := 0x2F

abbrev dot : UInt8 := 0x2E

/-- The texts between the slashes. -/
def segmentsOf (text : NativeText) : List NativeText :=
  (Text.pieces slash text.octets).map NativeText.mk

def segments (path : Path) : List NativeText :=
  segmentsOf path.spelling

def startsAtRoot (text : NativeText) : Bool :=
  text.octets.head? = some slash

inductive Component where
  | root
  | current
  | parent
  | name (text : NativeText)
  deriving Repr, DecidableEq

namespace Component

/-- A segment inside a path; empty ones and dots say nothing. -/
def ofSegment? (segment : NativeText) : Option Component :=
  if segment = "" ∨ segment = "." then none
  else if segment = ".." then some parent
  else some (name segment)

/-- The root comes first, then a leading dot, then the parent, then names by their octets. -/
def le : Component → Component → Bool
  | root, _ => true
  | _, root => false
  | current, _ => true
  | _, current => false
  | parent, _ => true
  | _, parent => false
  | name a, name b => lexLe (fun x y => decide (x ≤ y)) a.octets b.octets

end Component

def components (path : Path) : List Component :=
  let rest := path.segments.filterMap Component.ofSegment?
  if startsAtRoot path.spelling then .root :: rest
  else if path.segments.head? = some (.ofText ".") then .current :: rest
  else rest

def le (a b : Path) : Bool :=
  lexLe Component.le a.components b.components

def same (a b : Path) : Bool :=
  a.components = b.components

/-- The path of an entry of a directory. No slash is put after one. -/
def join (directory : Path) (name : NativeText) : Path :=
  if directory.spelling.octets.getLast?.all (· = slash) then ⟨directory.spelling ++ name⟩
  else ⟨directory.spelling ++ "/" ++ name⟩

/-- The path as it is shown. -/
def shown (path : Path) : String :=
  path.spelling.lossy

def forwardSlashes (text : String) : String :=
  text.map fun c => if c = '\\' then '/' else c

/-- A name cut at its last dot. -/
def cutAtLastDot : List UInt8 → Option (List UInt8 × List UInt8)
  | [] => none
  | octet :: rest =>
      match cutAtLastDot rest with
      | some (stem, ext) => some (octet :: stem, ext)
      | none => if octet = dot then some ([], rest) else none

/-- What follows the last dot of a name, unless that dot begins the name. -/
def extension? (name : NativeText) : Option NativeText :=
  match cutAtLastDot name.octets with
  | none | some ([], _) => none
  | some (_ :: _, ext) => some ⟨ext⟩

end Path
end NamingLint
