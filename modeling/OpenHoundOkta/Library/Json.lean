import OpenHoundOkta.Library.PythonText

/-! JSON values and the SQL function `json_extract_string(column, '$.a.b')`: a
string is returned unescaped, `null` and a missing path give SQL NULL, and every
other value is returned as its JSON text. -/
namespace OpenHoundOkta.JsonValues
open PythonText (Text)

structure NumberLiteral where
  text : Text
  shape : ∃ c rest, text = c::rest ∧ (c = '-' ∨ c.isDigit = true)

inductive Json where
  | null
  | bool (value : Bool)
  | number (literal : NumberLiteral)
  | string (value : String)
  | array (items : List Json)
  | object (fields : List (String × Json))

def hexDigit (n : Nat) : Char := "0123456789abcdef".toList.getD n '0'

def escapeChar (c : Char) : Text :=
  if c = '"' then ['\\','"'] else if c = '\\' then ['\\','\\']
  else if c = '\n' then ['\\','n'] else if c = '\r' then ['\\','r'] else if c = '\t' then ['\\','t']
  else if c.toNat = 8 then ['\\','b'] else if c.toNat = 12 then ['\\','f']
  else if c.toNat < 32 then ['\\','u','0','0',hexDigit (c.toNat / 16),hexDigit (c.toNat % 16)]
  else [c]

def quoted (s : String) : Text := ['"'] ++ s.toList.flatMap escapeChar ++ ['"']

mutual
def render : Json → Text
  | .null => "null".toList
  | .bool b => (if b then "true" else "false").toList
  | .number literal => literal.text
  | .string s => quoted s
  | .array items => ['['] ++ renderItems items ++ [']']
  | .object fields => ['{'] ++ renderFields fields ++ ['}']
def renderItems : List Json → Text
  | [] => []
  | [item] => render item
  | item::next::rest => render item ++ [','] ++ renderItems (next::rest)
def renderFields : List (String × Json) → Text
  | [] => []
  | [(key,value)] => quoted key ++ [':'] ++ render value
  | (key,value)::next::rest => quoted key ++ [':'] ++ render value ++ [','] ++ renderFields (next::rest)
end

def field? (fields : List (String × Json)) (key : String) : Option Json :=
  (fields.find? (fun f => f.1 == key)).map Prod.snd

def extract (value : Json) : List String → Option Json
  | [] => some value
  | key::rest =>
    match value with
    | .object fields => (field? fields key).bind (extract · rest)
    | _ => none

def asText : Json → Option Text
  | .null => none
  | .string s => some s.toList
  | other => some (render other)

def extractString (value : Json) (path : List String) : Option Text :=
  (extract value path).bind asText

def NonString : Json → Prop
  | .null | .string _ => False
  | _ => True
instance (value : Json) : Decidable (NonString value) := by
  cases value <;> unfold NonString <;> infer_instance

theorem renderHead {value : Json} (other : NonString value) :
    (∃ b, value = .bool b) ∨ ∃ c rest, render value = c::rest ∧
      (c = '-' ∨ c.isDigit = true ∨ c = '[' ∨ c = '{') := by
  cases value with
  | null => exact other.elim
  | string s => exact other.elim
  | bool b => exact .inl ⟨b,rfl⟩
  | number literal =>
    obtain ⟨c,rest,same,shape⟩ := literal.shape
    refine .inr ⟨c,rest,by simpa [render] using same,?_⟩
    rcases shape with minus | digit
    · exact .inl minus
    · exact .inr (.inl digit)
  | array items => exact .inr ⟨'[',renderItems items ++ [']'],by simp [render],by simp⟩
  | object fields => exact .inr ⟨'{',renderFields fields ++ ['}'],by simp [render],by simp⟩

end OpenHoundOkta.JsonValues
