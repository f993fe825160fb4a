import Mathlib.Data.List.Basic
import Mathlib.Algebra.Ring.Nat

/-! Base64 as `binascii` reads it in strict mode, one character after another. The bits of the
last character that belong to no byte are not looked at. -/
namespace OpenHoundOkta.Base64

abbrev Byte := Fin 256

def byte (n : Nat) : Byte := Fin.ofNat 256 n

def sextet (c : Char) : Option Nat :=
  if 65 ≤ c.toNat ∧ c.toNat ≤ 90 then some (c.toNat - 65)
  else if 97 ≤ c.toNat ∧ c.toNat ≤ 122 then some (c.toNat - 71)
  else if 48 ≤ c.toNat ∧ c.toNat ≤ 57 then some (c.toNat + 4)
  else if c = '+' then some 62
  else if c = '/' then some 63
  else none

def letter (n : Nat) : Char :=
  if n < 26 then Char.ofNat (n + 65)
  else if n < 52 then Char.ofNat (n + 71)
  else if n < 62 then Char.ofNat (n - 4)
  else if n = 62 then '+'
  else '/'

structure Reader where
  quad : Nat
  left : Nat
  pads : Nat
  padded : Bool

def Reader.start : Reader := ⟨0,0,0,false⟩

def read (r : Reader) : List Char → Option (List Byte)
  | [] => if r.quad = 0 then some [] else none
  | c::rest =>
    if c = '=' then
      if 2 ≤ r.quad then
        -- nothing may follow the padding of the last group
        if 4 ≤ r.quad + (r.pads + 1) then (if rest = [] then some [] else none)
        else read { r with pads := r.pads + 1, padded := true } rest
      else read { r with padded := true } rest
    else match sextet c with
      | none => none
      | some v =>
        if r.padded then none
        else match r.quad with
          | 0 => read ⟨1,v,0,false⟩ rest
          | 1 => (read ⟨2,v % 16,0,false⟩ rest).map (byte (r.left * 4 + v / 16) :: ·)
          | 2 => (read ⟨3,v % 4,0,false⟩ rest).map (byte (r.left * 16 + v / 4) :: ·)
          | _ => (read .start rest).map (byte (r.left * 64 + v) :: ·)

def decode (text : List Char) : Option (List Byte) := if text.head? = some '=' then none else read .start text

def spelled (low : Nat) : List Byte → List Char
  | [] => []
  | [a] => [letter (a / 4),letter (a % 4 * 16 + low % 16),'=','=']
  | [a,b] => [letter (a / 4),letter (a % 4 * 16 + b / 16),letter (b % 16 * 4 + low % 4),'=']
  | a::b::c::rest => letter (a / 4) :: letter (a % 4 * 16 + b / 16) :: letter (b % 16 * 4 + c / 64) ::
      letter (c % 64) :: spelled low rest

theorem sextetLetter : ∀ n < 64, sextet (letter n) = some n := by decide

theorem letterPlain : ∀ n < 64, letter n ≠ '=' := by decide

theorem letterSextet {c : Char} {v : Nat} (value : sextet c = some v) : v < 64 ∧ letter v = c := by
  unfold sextet at value
  split at value
  · rename_i upper
    cases value
    refine ⟨by omega,?_⟩
    rw [letter,if_pos (by omega),Nat.sub_add_cancel upper.1,Char.ofNat_toNat]
  · split at value
    · rename_i lower
      cases value
      refine ⟨by omega,?_⟩
      rw [letter,if_neg (by omega),if_pos (by omega),Nat.sub_add_cancel (by omega),Char.ofNat_toNat]
    · split at value
      · rename_i digit
        cases value
        refine ⟨by omega,?_⟩
        rw [letter,if_neg (by omega),if_neg (by omega),if_pos (by omega),Nat.add_sub_cancel,Char.ofNat_toNat]
      · split at value
        · rename_i plus
          cases value
          exact ⟨by decide,plus.symm⟩
        · split at value
          · rename_i slash
            cases value
            exact ⟨by decide,slash.symm⟩
          · cases value

theorem readLetter {n : Nat} (small : n < 64) {r : Reader} (plain : r.padded = false) (rest : List Char) :
    read r (letter n :: rest) = match r.quad with
      | 0 => read ⟨1,n,0,false⟩ rest
      | 1 => (read ⟨2,n % 16,0,false⟩ rest).map (byte (r.left * 4 + n / 16) :: ·)
      | 2 => (read ⟨3,n % 4,0,false⟩ rest).map (byte (r.left * 16 + n / 4) :: ·)
      | _ => (read .start rest).map (byte (r.left * 64 + n) :: ·) := by
  rw [read,if_neg (letterPlain n small),sextetLetter n small,plain]
  rfl

theorem byteSame {n : Nat} {a : Byte} (same : n = a) : byte n = a := by
  subst same
  exact Fin.ofNat_val_eq_self a

section Places
variable {n left : Nat} (small : n < 64) (rest : List Char)
include small

theorem readFirst : read .start (letter n :: rest) = read ⟨1,n,0,false⟩ rest := readLetter small rfl rest

theorem readSecond : read ⟨1,left,0,false⟩ (letter n :: rest) =
    (read ⟨2,n % 16,0,false⟩ rest).map (byte (left * 4 + n / 16) :: ·) := readLetter small rfl rest

theorem readThird : read ⟨2,left,0,false⟩ (letter n :: rest) =
    (read ⟨3,n % 4,0,false⟩ rest).map (byte (left * 16 + n / 4) :: ·) := readLetter small rfl rest

theorem readFourth : read ⟨3,left,0,false⟩ (letter n :: rest) =
    (read .start rest).map (byte (left * 64 + n) :: ·) := readLetter small rfl rest

end Places

theorem readSpelled (low : Nat) (bytes : List Byte) : read .start (spelled low bytes) = some bytes := by
  induction bytes using spelled.induct with
  | case1 => rfl
  | case2 a =>
    have first := a.isLt
    have whole : byte (a / 4 * 4 + (a % 4 * 16 + low % 16) / 16) = a := byteSame (by omega)
    rw [spelled,readFirst (by omega),readSecond (by omega),whole]
    rfl
  | case3 a b =>
    have first := a.isLt
    have second := b.isLt
    have whole : byte (a / 4 * 4 + (a % 4 * 16 + b / 16) / 16) = a := byteSame (by omega)
    have next : byte ((a % 4 * 16 + b / 16) % 16 * 16 + (b % 16 * 4 + low % 4) / 4) = b := byteSame (by omega)
    rw [spelled,readFirst (by omega),readSecond (by omega),readThird (by omega),whole,next]
    rfl
  | case4 a b c rest ih =>
    have first := a.isLt
    have second := b.isLt
    have third := c.isLt
    have whole : byte (a / 4 * 4 + (a % 4 * 16 + b / 16) / 16) = a := byteSame (by omega)
    have next : byte ((a % 4 * 16 + b / 16) % 16 * 16 + (b % 16 * 4 + c / 64) / 4) = b := byteSame (by omega)
    have last : byte ((b % 16 * 4 + c / 64) % 4 * 64 + c % 64) = c := byteSame (by omega)
    rw [spelled,readFirst (by omega),readSecond (by omega),readThird (by omega),readFourth (by omega),ih,whole,next,
      last]
    rfl

theorem paddedFull {left pads : Nat} {text : List Char} {bytes : List Byte}
    (ran : read ⟨0,left,pads,true⟩ text = some bytes) : bytes = [] := by
  induction text with
  | nil => exact (Option.some.inj ran).symm
  | cons c rest ih =>
    rw [read] at ran
    split at ran
    · exact ih ran
    · split at ran
      · cases ran
      · cases ran

theorem paddedFirst (left pads : Nat) (text : List Char) : read ⟨1,left,pads,true⟩ text = none := by
  induction text with
  | nil => rfl
  | cons c rest ih =>
    rw [read]
    split
    · exact ih
    · split
      · rfl
      · rfl

theorem paddedSecond {left : Nat} {text : List Char} {bytes : List Byte}
    (ran : read ⟨2,left,1,true⟩ text = some bytes) : text = ['='] ∧ bytes = [] := by
  cases text with
  | nil => cases ran
  | cons c rest =>
    rw [read] at ran
    split at ran
    · rename_i pad
      have here : (if rest = [] then some ([] : List Byte) else none) = some bytes := ran
      split at here
      · rename_i ends
        exact ⟨by rw [pad,ends],(Option.some.inj here).symm⟩
      · cases here
    · split at ran
      · cases ran
      · cases ran

theorem readCases {quad left : Nat} {c : Char} {rest : List Char} {bytes : List Byte}
    (ran : read ⟨quad,left,0,false⟩ (c::rest) = some bytes) : c = '=' ∨ ∃ n < 64, c = letter n := by
  rw [read] at ran
  split at ran
  · rename_i pad
    exact .inl pad
  · split at ran
    · cases ran
    · rename_i v value
      obtain ⟨small,same⟩ := letterSextet value
      exact .inr ⟨v,small,same.symm⟩

theorem byteVal {n : Nat} (small : n < 256) : (byte n : Nat) = n := Nat.mod_eq_of_lt small

theorem readGiven {text : List Char} {bytes : List Byte} (ran : read .start text = some bytes) :
    bytes.length % 3 = 0 ∨ ∃ low, text = spelled low bytes := by
  induction size : text.length using Nat.strong_induction_on generalizing text bytes with
  | _ size' ih =>
  subst size
  obtain _ | ⟨c1,text1⟩ := text
  · cases ran
    exact .inl rfl
  obtain rfl | ⟨n1,small1,rfl⟩ := readCases ran
  · rw [paddedFull (show read ⟨0,0,0,true⟩ text1 = some bytes from ran)]
    exact .inl rfl
  rw [readFirst small1] at ran
  obtain _ | ⟨c2,text2⟩ := text1
  · cases ran
  obtain rfl | ⟨n2,small2,rfl⟩ := readCases ran
  · have none : read ⟨1,n1,0,true⟩ text2 = some bytes := ran
    rw [paddedFirst] at none
    cases none
  rw [readSecond small2] at ran
  obtain ⟨bytes1,ran1,rfl⟩ := Option.map_eq_some_iff.mp ran
  have first := byteVal (show n1 * 4 + n2 / 16 < 256 by omega)
  obtain _ | ⟨c3,text3⟩ := text2
  · cases ran1
  obtain rfl | ⟨n3,small3,rfl⟩ := readCases ran1
  · obtain ⟨rfl,rfl⟩ := paddedSecond (show read ⟨2,n2 % 16,1,true⟩ text3 = some bytes1 from ran1)
    refine .inr ⟨n2,?_⟩
    rw [spelled,first,show (n1 * 4 + n2 / 16) / 4 = n1 by omega,
      show (n1 * 4 + n2 / 16) % 4 * 16 + n2 % 16 = n2 by omega]
  rw [readThird small3] at ran1
  obtain ⟨bytes2,ran2,rfl⟩ := Option.map_eq_some_iff.mp ran1
  have second := byteVal (show n2 % 16 * 16 + n3 / 4 < 256 by omega)
  obtain _ | ⟨c4,text4⟩ := text3
  · cases ran2
  obtain rfl | ⟨n4,small4,rfl⟩ := readCases ran2
  · have ends : (if text4 = [] then some ([] : List Byte) else none) = some bytes2 := ran2
    split at ends
    · rename_i nothing
      cases ends
      refine .inr ⟨n3,?_⟩
      rw [spelled,first,second,nothing,show (n1 * 4 + n2 / 16) / 4 = n1 by omega,
        show (n1 * 4 + n2 / 16) % 4 * 16 + (n2 % 16 * 16 + n3 / 4) / 16 = n2 by omega,
        show (n2 % 16 * 16 + n3 / 4) % 16 * 4 + n3 % 4 = n3 by omega]
    · cases ends
  rw [readFourth small4] at ran2
  obtain ⟨bytes3,ran3,rfl⟩ := Option.map_eq_some_iff.mp ran2
  have third := byteVal (show n3 % 4 * 64 + n4 < 256 by omega)
  rcases ih text4.length (by simp only [List.length_cons]; omega) ran3 rfl with whole | ⟨low,rest⟩
  · refine .inl ?_
    simp only [List.length_cons]
    omega
  · refine .inr ⟨low,?_⟩
    rw [spelled,first,second,third,rest,show (n1 * 4 + n2 / 16) / 4 = n1 by omega,
      show (n1 * 4 + n2 / 16) % 4 * 16 + (n2 % 16 * 16 + n3 / 4) / 16 = n2 by omega,
      show (n2 % 16 * 16 + n3 / 4) % 16 * 4 + (n3 % 4 * 64 + n4) / 64 = n3 by omega,
      show (n3 % 4 * 64 + n4) % 64 = n4 by omega]

theorem spelledHead (low : Nat) (bytes : List Byte) : (spelled low bytes).head? ≠ some '=' := by
  have plain (a : Byte) : letter (a / 4) ≠ '=' := letterPlain _ (by have := a.isLt; omega)
  intro pad
  induction bytes using spelled.induct with
  | case1 => cases pad
  | case2 a => exact plain a (Option.some.inj pad)
  | case3 a b => exact plain a (Option.some.inj pad)
  | case4 a b c rest _ => exact plain a (Option.some.inj pad)

theorem decodeSpelled (low : Nat) (bytes : List Byte) : decode (spelled low bytes) = some bytes := by
  rw [decode,if_neg (spelledHead low bytes)]
  exact readSpelled low bytes

theorem decodeGiven {text : List Char} {bytes : List Byte} (unfilled : bytes.length % 3 ≠ 0) :
    decode text = some bytes ↔ ∃ low, text = spelled low bytes := by
  constructor
  · intro ran
    rw [decode] at ran
    split at ran
    · cases ran
    · exact (readGiven ran).resolve_left unfilled
  · rintro ⟨low,rfl⟩
    exact decodeSpelled low bytes

theorem readForeign {c : Char} (foreign : sextet c = none) (other : c ≠ '=') {r : Reader} {text : List Char}
    (mem : c ∈ text) : read r text = none := by
  induction text generalizing r with
  | nil => cases mem
  | cons first rest ih =>
    rcases List.mem_cons.mp mem with rfl | later
    · rw [read,if_neg other,foreign]
    · have more : rest ≠ [] := List.ne_nil_of_mem later
      rw [read]
      split
      · split
        · split
          · rfl
          · exact ih later
        · exact ih later
      · split
        · rfl
        · split
          · rfl
          · split
            · exact ih later
            all_goals rw [ih later]; rfl

theorem decodeForeign {c : Char} (foreign : sextet c = none) (other : c ≠ '=') {text : List Char} (mem : c ∈ text) :
    decode text = none := by
  rw [decode]
  split
  · rfl
  · exact readForeign foreign other mem

end OpenHoundOkta.Base64
