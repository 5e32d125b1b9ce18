import DocFlow.Document.Path
import DocFlow.Value.Basic

/-!
# Documents

A record of fields in insertion order, read and changed by paths.  Reading through an array applies
the rest of the path to its documents and collects what is there; writing makes the documents on the
way, in place of anything that is no document; deleting changes nothing where the path leads nowhere.
-/

namespace DocFlow

/-- A record of fields in insertion order. -/
structure Document where
  fields : Entries Value
  deriving Inhabited

/-! ## Nested fields -/

namespace Fields

/-- The fields of the documents among the items of an array. -/
def documents : List Value → List (Entries Value)
  | [] => []
  | .document fields :: vs => fields :: documents vs
  | _ :: vs => documents vs

/-- The value at a path of keys. -/
def resolve (fields : Entries Value) (key : String) : (rest : List String) → Value
  | [] => (Entries.get? key fields).getD .missing
  | next :: rest =>
    match Entries.get? key fields with
    | some (.document inner) => resolve inner next rest
    | some (.array items) =>
      .array (((documents items).map fun inner => resolve inner next rest).filter (!·.isMissing))
    | _ => .missing

/-- The fields of the document at a key; none if there is no document. -/
def inside (key : String) (fields : Entries Value) : Entries Value :=
  match Entries.get? key fields with
  | some (.document inner) => inner
  | _ => []

/-- The fields with a value at a path of keys. -/
def assign (fields : Entries Value) (key : String) (v : Value) : (rest : List String) → Entries Value
  | [] => Entries.put key v fields
  | next :: rest => Entries.put key (.document (assign (inside key fields) next v rest)) fields

def delete (fields : Entries Value) (key : String) : (rest : List String) → Entries Value
  | [] => Entries.erase key fields
  | next :: rest =>
    match Entries.get? key fields with
    | some (.document inner) => Entries.put key (.document (delete inner next rest)) fields
    | _ => fields

/-- The value that `delete` takes away, if there is one. -/
def deleted? (fields : Entries Value) (key : String) : (rest : List String) → Option Value
  | [] => Entries.get? key fields
  | next :: rest =>
    match Entries.get? key fields with
    | some (.document inner) => deleted? inner next rest
    | _ => none

end Fields

namespace Document

def empty : Document := ⟨[]⟩

def toValue (d : Document) : Value := .document d.fields

def ofValue? : Value → Option Document
  | .document fields => some ⟨fields⟩
  | _ => none

/-! ## Top-level fields -/

def size (d : Document) : Nat := d.fields.length

def keys (d : Document) : List String := Entries.keys d.fields

def hasKey (d : Document) (key : String) : Bool := Entries.hasKey key d.fields

def field? (d : Document) (key : String) : Option Value := Entries.get? key d.fields

/-- The document with a value at a key, which is not taken as a path. -/
def insert (d : Document) (key : String) (v : Value) : Document := ⟨Entries.put key v d.fields⟩

/-- The document without a key, which is not taken as a path. -/
def remove (d : Document) (key : String) : Document := ⟨Entries.erase key d.fields⟩

/-! ## Paths -/

/-- The value at a path, `missing` if there is none. -/
def get (d : Document) (p : Path) : Value := Fields.resolve d.fields p.head p.rest

def getOr (d : Document) (p : Path) (default : Value) : Value :=
  match d.get p with
  | .missing => default
  | v => v

def delete (d : Document) (p : Path) : Document := ⟨Fields.delete d.fields p.head p.rest⟩

def deleted? (d : Document) (p : Path) : Option Value := Fields.deleted? d.fields p.head p.rest

/-- The document with a value at a path; setting `missing` deletes. -/
def set (d : Document) (p : Path) (v : Value) : Document :=
  match v with
  | .missing => d.delete p
  | v => ⟨Fields.assign d.fields p.head v p.rest⟩

end Document

end DocFlow
