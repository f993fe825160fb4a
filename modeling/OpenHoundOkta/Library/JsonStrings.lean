import OpenHoundOkta.Library.Json
import OpenHoundOkta.Library.PrefixCodes
import Mathlib.Tactic.SplitIfs

/-! The strings of `json.dumps`, with `ensure_ascii` and without, read back one character at a
time: a string in quotation marks is read off any longer text in one way only. -/
namespace OpenHoundOkta.JsonStrings
open PythonText JsonValues PrefixCodes

def unicodeEscape (n : Nat) : Text :=
  ['\\','u',hexDigit (n / 4096),hexDigit (n / 256 % 16),hexDigit (n / 16 % 16),hexDigit (n % 16)]

/- `json.dumps` with `ensure_ascii`: a character beyond the basic plane is a surrogate pair. -/
def asciiEscape (c : Char) : Text :=
  if c.toNat < 0x80 ∧ c.toNat ≠ 0x7f then escapeChar c
  else if c.toNat < 0x10000 then unicodeEscape c.toNat
  else unicodeEscape (0xd800 + (c.toNat - 0x10000) / 0x400) ++ unicodeEscape (0xdc00 + (c.toNat - 0x10000) % 0x400)

def asciiQuoted (s : String) : Text := ['"'] ++ s.toList.flatMap asciiEscape ++ ['"']

theorem hexValueDigit {n : Nat} (small : n < 16) : hexValue (hexDigit n) = n := by
  have all : ∀ m : Fin 16, hexValue (hexDigit m) = m := by decide
  exact all ⟨n,small⟩

def unitDigits (n : Nat) : Text :=
  [hexDigit (n / 4096),hexDigit (n / 256 % 16),hexDigit (n / 16 % 16),hexDigit (n % 16)]

theorem unicodeEscapeDigits (n : Nat) : unicodeEscape n = '\\' :: 'u' :: unitDigits n := rfl

def readUnit : Text → Option (Nat × Text)
  | a::b::c::d::rest =>
    some (((hexValue a * 16 + hexValue b) * 16 + hexValue c) * 16 + hexValue d,rest)
  | _ => none

theorem readDigits {n : Nat} (small : n < 0x10000) (rest : Text) :
    readUnit (unitDigits n ++ rest) = some (n,rest) := by
  have first : n / 4096 < 16 := by omega
  have second : n / 256 % 16 < 16 := by omega
  have third : n / 16 % 16 < 16 := by omega
  have fourth : n % 16 < 16 := by omega
  simp only [unitDigits,List.cons_append,List.nil_append,readUnit,hexValueDigit first,hexValueDigit second,
    hexValueDigit third,hexValueDigit fourth]
  congr 2
  omega

def unescape (c : Char) : Char :=
  if c = 'n' then '\n' else if c = 'r' then '\r' else if c = 't' then '\t'
  else if c = 'b' then Char.ofNat 8 else if c = 'f' then Char.ofNat 12 else c

def readLow (high : Nat) : Text → Option (Char × Text)
  | '\\' :: 'u' :: rest =>
    (readUnit rest).map (fun (low,after) =>
      (Char.ofNat (0x10000 + (high - 0xd800) * 0x400 + (low - 0xdc00)),after))
  | _ => none

def readEscape : Text → Option (Char × Text)
  | '\\' :: 'u' :: rest =>
    match readUnit rest with
    | none => none
    | some (n,after) => if 0xd800 ≤ n ∧ n < 0xdc00 then readLow n after else some (Char.ofNat n,after)
  | '\\' :: c :: rest => some (unescape c,rest)
  | '"' :: _ => none
  | c :: rest => some (c,rest)
  | [] => none

theorem readPlain {c : Char} (quote : c ≠ '"') (slash : c ≠ '\\') (rest : Text) :
    readEscape (c::rest) = some (c,rest) := by
  unfold readEscape
  split <;> simp_all

theorem scalarValue (c : Char) : c.toNat < 0xd800 ∨ 0xdfff < c.toNat ∧ c.toNat < 0x110000 := c.valid

theorem readBasic {c : Char} (basic : c.toNat < 0x10000) (rest : Text) :
    readEscape (unicodeEscape c.toNat ++ rest) = some (c,rest) := by
  have single : ¬(0xd800 ≤ c.toNat ∧ c.toNat < 0xdc00) := by
    have valid := scalarValue c
    omega
  simp only [unicodeEscapeDigits,List.cons_append,readEscape,readDigits basic,if_neg single,
    Char.ofNat_toNat]

theorem readPair {c : Char} (beyond : 0x10000 ≤ c.toNat) (rest : Text) :
    readEscape (unicodeEscape (0xd800 + (c.toNat - 0x10000) / 0x400) ++
      unicodeEscape (0xdc00 + (c.toNat - 0x10000) % 0x400) ++ rest) = some (c,rest) := by
  have valid := scalarValue c
  have high : 0xd800 + (c.toNat - 0x10000) / 0x400 < 0x10000 := by omega
  have low : 0xdc00 + (c.toNat - 0x10000) % 0x400 < 0x10000 := by omega
  have pair : 0xd800 ≤ 0xd800 + (c.toNat - 0x10000) / 0x400 ∧
      0xd800 + (c.toNat - 0x10000) / 0x400 < 0xdc00 := by omega
  have value : 0x10000 + (0xd800 + (c.toNat - 0x10000) / 0x400 - 0xd800) * 0x400 +
      (0xdc00 + (c.toNat - 0x10000) % 0x400 - 0xdc00) = c.toNat := by omega
  simp only [unicodeEscapeDigits,List.cons_append,List.append_assoc,readEscape,readDigits high,if_pos pair,
    readLow,readDigits low,Option.map_some,value,Char.ofNat_toNat]

theorem controlEscape {n : Nat} (control : n < 32) :
    ['\\','u','0','0',hexDigit (n / 16),hexDigit (n % 16)] = unicodeEscape n := by
  have all : ∀ m : Fin 32, (['\\','u','0','0',hexDigit (m / 16),hexDigit (m % 16)] : Text) =
      unicodeEscape m := by decide
  exact all ⟨n,control⟩

theorem readEscapeChar (c : Char) (rest : Text) : readEscape (escapeChar c ++ rest) = some (c,rest) := by
  unfold escapeChar
  split_ifs with quote slash line carriage tab back form control
  · rw [quote]
    rfl
  · rw [slash]
    rfl
  · rw [line]
    rfl
  · rw [carriage]
    rfl
  · rw [tab]
    rfl
  · rw [← Char.ofNat_toNat c,back]
    rfl
  · rw [← Char.ofNat_toNat c,form]
    rfl
  · rw [controlEscape control]
    exact readBasic (by omega) rest
  · exact readPlain quote slash rest

theorem readAsciiEscape (c : Char) (rest : Text) : readEscape (asciiEscape c ++ rest) = some (c,rest) := by
  unfold asciiEscape
  split_ifs with ascii basic
  · exact readEscapeChar c rest
  · exact readBasic basic rest
  · exact readPair (not_lt.mp basic) rest

def jsonString : PrefixCode Char Char :=
  .ofReader asciiEscape '"' readEscape readAsciiEscape (fun _ => rfl)

theorem quotedEncode (s : String) : asciiQuoted s = '"' :: jsonString.encode s.toList := rfl

theorem quotedSeparate {s t : String} {rest tail : Text}
    (same : asciiQuoted s ++ rest = asciiQuoted t ++ tail) : s = t ∧ rest = tail := by
  rw [quotedEncode,quotedEncode] at same
  obtain ⟨texts,last⟩ := jsonString.encodeSeparate (List.cons.inj same).2
  exact ⟨String.toList_inj.mp texts,last⟩

def plainString : PrefixCode Char Char :=
  .ofReader escapeChar '"' readEscape readEscapeChar (fun _ => rfl)

theorem plainQuotedSeparate {s t : String} {rest tail : Text}
    (same : quoted s ++ rest = quoted t ++ tail) : s = t ∧ rest = tail := by
  have left : quoted s = '"' :: plainString.encode s.toList := rfl
  have right : quoted t = '"' :: plainString.encode t.toList := rfl
  rw [left,right] at same
  obtain ⟨texts,last⟩ := plainString.encodeSeparate (List.cons.inj same).2
  exact ⟨String.toList_inj.mp texts,last⟩

end OpenHoundOkta.JsonStrings
