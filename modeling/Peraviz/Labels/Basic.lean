import Mathlib.Algebra.GroupWithZero.Nat
import Mathlib.Data.List.Basic

/-!
This module contains names in the label format of DNS: labels of 1 to 63 bytes, each behind a byte
with its length, and a zero byte at the end.
-/

namespace Labels

/-- The largest length that is not taken for a pointer or for a reserved kind of label. -/
def maxLength : Nat := 63

def encode (labels : List (List UInt8)) : List UInt8 :=
  labels.flatMap (fun label => UInt8.ofNat label.length :: label) ++ [0]

/-- The first name of a text and what follows it, in as many rounds as there are bytes. -/
def decodeFrom : Nat → List UInt8 → Option (List (List UInt8) × List UInt8)
  | 0, _ => none
  | _ + 1, [] => none
  | fuel + 1, length :: rest =>
    if length = 0 then
      some ([], rest)
    else if maxLength < length.toNat ∨ rest.length < length.toNat then
      none
    else
      (decodeFrom fuel (rest.drop length.toNat)).map (fun name =>
        (rest.take length.toNat :: name.1, name.2))

def decode (bytes : List UInt8) : Option (List (List UInt8) × List UInt8) :=
  decodeFrom bytes.length bytes

def IsLabel (label : List UInt8) : Prop :=
  1 ≤ label.length ∧ label.length ≤ maxLength

theorem length_encode (labels : List (List UInt8))
    : (encode labels).length = (labels.map (fun label => label.length + 1)).sum + 1 := by
  unfold encode
  rw [List.length_append, List.length_flatMap, List.length_singleton]
  rfl

theorem encode_cons (label : List UInt8) (labels : List (List UInt8))
    : encode (label :: labels) = UInt8.ofNat label.length :: (label ++ encode labels) := by
  simp [encode]

theorem toNat_length {label : List UInt8} (h : IsLabel label)
    : (UInt8.ofNat label.length).toNat = label.length := by
  have := h.2
  unfold maxLength at this
  rw [UInt8.toNat_ofNat']
  omega

theorem decodeFrom_encode {labels : List (List UInt8)} (h : ∀ label ∈ labels, IsLabel label)
    (rest : List UInt8) {fuel : Nat} (hfuel : (encode labels).length ≤ fuel)
    : decodeFrom fuel (encode labels ++ rest) = some (labels, rest) := by
  induction labels generalizing fuel with
  | nil =>
    cases fuel with
    | zero => simp [encode] at hfuel
    | succ fuel => rfl
  | cons label labels ih =>
    rw [List.forall_mem_cons] at h
    have hlength := toNat_length h.1
    have hzero : UInt8.ofNat label.length ≠ 0 := by
      intro heq
      rw [heq] at hlength
      have := h.1.1
      have hnone : (0 : UInt8).toNat = 0 := rfl
      omega
    rw [encode_cons] at hfuel ⊢
    cases fuel with
    | zero => simp at hfuel
    | succ fuel =>
      have hfits : ¬ (maxLength < label.length
          ∨ (label ++ encode labels ++ rest).length < label.length) := by
        have := h.1.2
        simp only [List.length_append]
        omega
      simp only [List.length_cons, List.length_append] at hfuel
      rw [List.cons_append, decodeFrom, if_neg hzero, hlength, if_neg hfits, List.append_assoc,
        List.drop_left, List.take_left, ih h.2 (by omega)]
      rfl

theorem decode_encode_append {labels : List (List UInt8)} (h : ∀ label ∈ labels, IsLabel label)
    (rest : List UInt8) : decode (encode labels ++ rest) = some (labels, rest) := by
  apply decodeFrom_encode h
  rw [List.length_append]
  omega

-- A name is only decoded from the bytes that it is written with.
theorem of_decodeFrom {fuel : Nat} {bytes rest : List UInt8} {labels : List (List UInt8)}
    (h : decodeFrom fuel bytes = some (labels, rest))
    : (∀ label ∈ labels, IsLabel label) ∧ bytes = encode labels ++ rest := by
  induction fuel generalizing bytes labels with
  | zero => contradiction
  | succ fuel ih =>
    cases bytes with
    | nil => contradiction
    | cons length bytes =>
      rw [decodeFrom] at h
      split at h
      . next hzero =>
        cases h
        simp [encode, hzero]
      . next hlength =>
        split at h
        . contradiction
        . next hfits =>
          rw [Option.map_eq_some_iff] at h
          obtain ⟨name, hname, heq⟩ := h
          cases heq
          have hback := ih hname
          have htake : (bytes.take length.toNat).length = length.toNat := by
            rw [List.length_take]
            omega
          have hpos : length.toNat ≠ 0 := by
            intro hzero
            exact hlength (UInt8.toNat_inj.mp hzero)
          rw [List.forall_mem_cons, encode_cons, htake, UInt8.ofNat_toNat]
          refine ⟨⟨?_, hback.1⟩, ?_⟩
          . unfold IsLabel
            omega
          . rw [List.cons_append, List.append_assoc, ← hback.2, List.take_append_drop]

theorem isLabel_of_decode {bytes rest : List UInt8} {labels : List (List UInt8)}
    (h : decode bytes = some (labels, rest)) : ∀ label ∈ labels, IsLabel label :=
  (of_decodeFrom h).1

theorem eq_encode_of_decode {bytes rest : List UInt8} {labels : List (List UInt8)}
    (h : decode bytes = some (labels, rest)) : bytes = encode labels ++ rest :=
  (of_decodeFrom h).2

theorem decode_eq_some_iff {bytes rest : List UInt8} {labels : List (List UInt8)}
    : decode bytes = some (labels, rest)
        ↔ (∀ label ∈ labels, IsLabel label) ∧ bytes = encode labels ++ rest := by
  constructor
  . intro h
    exact ⟨isLabel_of_decode h, eq_encode_of_decode h⟩
  . rintro ⟨hlabels, heq⟩
    rw [heq]
    exact decode_encode_append hlabels rest

end Labels
