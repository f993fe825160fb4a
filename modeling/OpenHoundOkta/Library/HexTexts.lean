import OpenHoundOkta.Library.Base64
import OpenHoundOkta.Library.JsonStrings

/-! Numbers of bytes, most significant first, and their hexadecimal digits. -/
namespace OpenHoundOkta.HexTexts
open Base64 (Byte)
open JsonValues (hexDigit)

def ofBytes (bytes : List Byte) : Nat := bytes.foldl (fun (n : Nat) (b : Byte) => n * 256 + b.val) 0

def hexDigits : Nat → Nat → List Char
  | 0,_ => []
  | width + 1,n => hexDigits width (n / 16) ++ [hexDigit (n % 16)]

def hexPair (b : Byte) : List Char := [hexDigit (b / 16),hexDigit (b % 16)]

theorem hexDigitsBytes (bytes : List Byte) :
    hexDigits (2 * bytes.length) (ofBytes bytes) = bytes.flatMap hexPair := by
  induction bytes using List.reverseRecOn with
  | nil => rfl
  | append_singleton bytes b ih =>
    have small := b.isLt
    have last : ofBytes (bytes ++ [b]) = ofBytes bytes * 256 + b := by
      rw [ofBytes,List.foldl_append]
      rfl
    rw [List.length_append,List.length_singleton,Nat.mul_add,hexDigits,hexDigits,last,
      show (ofBytes bytes * 256 + b) / 16 / 16 = ofBytes bytes by omega,
      show (ofBytes bytes * 256 + b) / 16 % 16 = b / 16 by omega,
      show (ofBytes bytes * 256 + b) % 16 = b % 16 by omega,ih,List.flatMap_append]
    rw [List.append_assoc]
    rfl

theorem hexDigitSame {i j : Nat} (first : i < 16) (second : j < 16) (same : hexDigit i = hexDigit j) : i = j := by
  rw [← JsonStrings.hexValueDigit first,same,JsonStrings.hexValueDigit second]

theorem hexPairSame {a b : Byte} (same : hexPair a = hexPair b) : a = b := by
  have first := a.isLt
  have second := b.isLt
  obtain ⟨high,low⟩ := List.cons.inj same
  have highs := hexDigitSame (by omega) (by omega) high
  have lows := hexDigitSame (by omega) (by omega) (List.cons.inj low).1
  exact Fin.ext (by omega)

theorem hexPairsSame {bytes other : List Byte} (same : bytes.flatMap hexPair = other.flatMap hexPair) :
    bytes = other := by
  induction bytes generalizing other with
  | nil =>
    cases other with
    | nil => rfl
    | cons b rest => cases same
  | cons a rest ih =>
    cases other with
    | nil => cases same
    | cons b others =>
      obtain ⟨first,later⟩ := List.append_inj (show hexPair a ++ rest.flatMap hexPair = hexPair b ++ others.flatMap hexPair
        from same) rfl
      rw [hexPairSame first,ih later]

theorem hexDigitPlain : ∀ n < 16, hexDigit n ≠ '-' := by decide

theorem hexDigitsPlain (width n : Nat) : ∀ c ∈ hexDigits width n, c ≠ '-' := by
  induction width generalizing n with
  | zero => exact List.forall_mem_nil _
  | succ width ih =>
    rw [hexDigits]
    refine List.forall_mem_append.mpr ⟨ih _,?_⟩
    intro c mem
    rw [List.mem_singleton.mp mem]
    exact hexDigitPlain _ (Nat.mod_lt _ (by decide))

end OpenHoundOkta.HexTexts
