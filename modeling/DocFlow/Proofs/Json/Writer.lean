import DocFlow.Value.Json

/-!
# Writing JSON anywhere

A writer says what comes out for each part of a JSON value, and that of an array or an object from what has come out for
its parts (`Json.Writer`); the compact text is what one of them gives (`Json.write_text`).  Values are written without
building JSON first, and every writer gets the same from a value as from its JSON (`Value.write_toJson`).
-/

namespace DocFlow

variable {α : Type}

/-! ## Writers -/

/-- What comes out for each part of a JSON value. -/
structure Json.Writer (α : Type) where
  null : α
  bool : Bool → α
  number : JsonNumber → α
  string : String → α
  array : List α → α
  object : List (String × α) → α

namespace Json

mutual

def write (w : Writer α) : Json → α
  | null => w.null
  | bool b => w.bool b
  | number n => w.number n
  | string s => w.string s
  | array items => w.array (writeItems w items)
  | object members => w.object (writeMembers w members)

def writeItems (w : Writer α) : List Json → List α
  | [] => []
  | j :: js => write w j :: writeItems w js

def writeMembers (w : Writer α) : List (String × Json) → List (String × α)
  | [] => []
  | (k, j) :: js => (k, write w j) :: writeMembers w js

end

/-! ### Text -/

/-- The text of a member, from that of its value. -/
def memberText (member : String × List Char) : List Char := Text.quoted member.1 ++ ':' :: member.2

/-- The writer of compact text. -/
def Writer.text : Writer (List Char) where
  null := "null".toList
  bool b := (if b then "true" else "false").toList
  number n := n.chars
  string s := Text.quoted s
  array items := '[' :: commaSeparated items ++ [']']
  object members := '\x7b' :: commaSeparated (members.map memberText) ++ ['\x7d']

mutual

/-- The compact text is what the writer of compact text gives. -/
theorem write_text : ∀ j : Json, j.write .text = j.chars
  | null | bool _ | number _ | string _ => rfl
  | array items => congrArg Writer.text.array (writeItems_text items)
  | object members => congrArg (fun pieces => '\x7b' :: commaSeparated pieces ++ ['\x7d']) (writeMembers_text members)

theorem writeItems_text : ∀ js : List Json, writeItems .text js = itemChars js
  | [] => rfl
  | j :: js => by rw [writeItems, itemChars, write_text j, writeItems_text js]

theorem writeMembers_text :
    ∀ members : List (String × Json), (writeMembers .text members).map memberText = memberChars members
  | [] => rfl
  | (k, j) :: js => by
    rw [writeMembers, memberChars, List.map_cons, write_text j, writeMembers_text js]
    rfl

end

end Json

/-! ## Writing values -/

namespace Value

open Json (Writer)

mutual

def write (w : Writer α) : Value → α
  | missing => w.null
  | null => w.null
  | bool b => w.bool b
  | number x => (numberToJson x).write w
  | string s => w.string s
  | timestamp t => (toJson (timestamp t)).write w
  | array items => w.array (writeItems w items)
  | document fields => w.object (writeFields w fields)

def writeItems (w : Writer α) : List Value → List α
  | [] => []
  | v :: vs => write w v :: writeItems w vs

/-- The fields that are there, written as JSON. -/
def writeFields (w : Writer α) : List (String × Value) → List (String × α)
  | [] => []
  | (_, missing) :: fs => writeFields w fs
  | (k, v) :: fs => (k, write w v) :: writeFields w fs

end

/-! ### A field that is there -/

section Fields

variable {k : String} {v : Value} {fs : List (String × Value)}

theorem eq_missing_or_isMissing (v : Value) : v = missing ∨ v.isMissing = false := by
  cases v with
  | missing => exact .inl rfl
  | _ => exact .inr rfl

theorem toMembers_cons (hv : v.isMissing = false) : toMembers ((k, v) :: fs) = (k, v.toJson) :: toMembers fs := by
  cases v with
  | missing => cases hv
  | _ => rfl

theorem writeFields_cons (w : Writer α) (hv : v.isMissing = false) :
    writeFields w ((k, v) :: fs) = (k, v.write w) :: writeFields w fs := by
  cases v with
  | missing => cases hv
  | _ => rfl

theorem serializeFields_cons (hv : v.isMissing = false) :
    serializeFields ((k, v) :: fs) = (Text.quoted k ++ ':' :: v.serializeChars) :: serializeFields fs := by
  cases v with
  | missing => cases hv
  | _ => rfl

end Fields

/-! ### Values and their JSON -/

mutual

/-- Every writer gets the same from the JSON of a value as from the value. -/
theorem write_toJson (w : Writer α) : ∀ v : Value, v.toJson.write w = v.write w
  | missing | null | bool _ | number _ | string _ | timestamp _ => rfl
  | array items => congrArg w.array (writeItems_toItems w items)
  | document fields => congrArg w.object (writeMembers_toMembers w fields)

theorem writeItems_toItems (w : Writer α) : ∀ vs : List Value, Json.writeItems w (toItems vs) = writeItems w vs
  | [] => rfl
  | v :: vs => by rw [toItems, Json.writeItems, writeItems, write_toJson w v, writeItems_toItems w vs]

theorem writeMembers_toMembers (w : Writer α) :
    ∀ fs : List (String × Value), Json.writeMembers w (toMembers fs) = writeFields w fs
  | [] => rfl
  | (k, v) :: fs => by
    rcases v.eq_missing_or_isMissing with rfl | hv
    · exact writeMembers_toMembers w fs
    · rw [toMembers_cons hv, writeFields_cons w hv, Json.writeMembers, write_toJson w v, writeMembers_toMembers w fs]

end

mutual

/-- The text of a value is what the writer of compact text gets from it. -/
theorem write_text : ∀ v : Value, v.write .text = v.serializeChars
  | missing | null | bool _ | string _ | timestamp _ => rfl
  | number x => Json.write_text (numberToJson x)
  | array items => congrArg Writer.text.array (writeItems_text items)
  | document fields => congrArg (fun pieces => '\x7b' :: commaSeparated pieces ++ ['\x7d']) (writeFields_text fields)

theorem writeItems_text : ∀ vs : List Value, writeItems .text vs = serializeItems vs
  | [] => rfl
  | v :: vs => by rw [writeItems, serializeItems, write_text v, writeItems_text vs]

theorem writeFields_text : ∀ fs : List (String × Value), (writeFields .text fs).map Json.memberText = serializeFields fs
  | [] => rfl
  | (k, v) :: fs => by
    rcases v.eq_missing_or_isMissing with rfl | hv
    · exact writeFields_text fs
    · rw [writeFields_cons _ hv, serializeFields_cons hv, List.map_cons, write_text v, writeFields_text fs]
      rfl

end

end Value

end DocFlow
