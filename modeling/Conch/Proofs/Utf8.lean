import Mathlib.Tactic.SplitIfs
import Conch.Text.Utf8

/-!
The UTF-8 forms of texts: how long they are, and how they are ordered. Texts are ordered by their
characters, one after another; their UTF-8 forms, ordered byte by byte, are ordered alike.

* `Text.below_codeBytes`: the bytes of a smaller code are below those of a larger one, at a place
  that both have.
* `Text.utf8_lt_utf8`: so a smaller text has a smaller UTF-8 form.
-/

namespace Conch.Text

/-! ### Length -/

@[simp] theorem byteLength_nil : byteLength [] = 0 := rfl

theorem foldl_utf8Size (s : Text) (start : Nat) :
    s.foldl (fun n c => n + c.utf8Size) start = start + byteLength s := by
  induction s generalizing start with
  | nil => rfl
  | cons c s ih =>
      rw [byteLength, List.foldl_cons, List.foldl_cons, ih, ih (0 + c.utf8Size)]
      omega

@[simp] theorem byteLength_cons (c : Char) (s : Text) :
    byteLength (c :: s) = c.utf8Size + byteLength s := by
  rw [byteLength, List.foldl_cons, foldl_utf8Size, Nat.zero_add]

@[simp] theorem byteLength_append (s t : Text) :
    byteLength (s ++ t) = byteLength s + byteLength t := by
  rw [byteLength, List.foldl_append, foldl_utf8Size, ← byteLength]

theorem byteLength_reverse (s : Text) : byteLength s.reverse = byteLength s := by
  induction s with
  | nil => rfl
  | cons c s ih =>
      rw [List.reverse_cons, byteLength_append, ih, byteLength_cons, byteLength_cons,
        byteLength_nil]
      omega

theorem byteLength_eq_zero_iff {s : Text} : byteLength s = 0 ↔ s = [] := by
  cases s with
  | nil => exact ⟨fun _ => rfl, fun _ => rfl⟩
  | cons c s =>
      have hpos := c.utf8Size_pos
      rw [byteLength_cons]
      exact ⟨fun h => by omega, nofun⟩

/-! ### Characters -/

/-- The UTF-8 form of a character by its code. -/
def codeBytes (code : Nat) : List Nat :=
  if code ≤ 0x7F then [code]
  else if code ≤ 0x7FF then [code / 64 % 32 + 192, code % 64 + 128]
  else if code ≤ 0xFFFF then [code / 4096 % 16 + 224, code / 64 % 64 + 128, code % 64 + 128]
  else [code / 262144 % 8 + 240, code / 4096 % 64 + 128, code / 64 % 64 + 128, code % 64 + 128]

theorem utf8EncodeChar_eq (c : Char) :
    String.utf8EncodeChar c = (codeBytes c.toNat).map UInt8.ofNat := by
  show _ = (codeBytes c.val.toNat).map UInt8.ofNat
  rw [String.utf8EncodeChar, codeBytes]
  split_ifs <;> rfl

theorem lt_of_mem_codeBytes {code byte : Nat} (h : byte ∈ codeBytes code) : byte < 256 := by
  unfold codeBytes at h
  split_ifs at h <;> simp only [List.mem_cons, List.not_mem_nil, or_false] at h <;> omega

/-- One list is smaller than another at a place that both have, so that it does not matter what
follows them. -/
inductive Below : List Nat → List Nat → Prop
  | head {a b : Nat} {s t : List Nat} : a < b → Below (a :: s) (b :: t)
  | tail {a : Nat} {s t : List Nat} : Below s t → Below (a :: s) (a :: t)

theorem below_cons_iff {a b : Nat} {s t : List Nat} :
    Below (a :: s) (b :: t) ↔ a < b ∨ a = b ∧ Below s t := by
  constructor
  · rintro (hlt | hrest)
    · exact .inl hlt
    · exact .inr ⟨rfl, hrest⟩
  · rintro (hlt | ⟨rfl, hrest⟩)
    · exact .head hlt
    · exact .tail hrest

theorem not_below_nil {t : List Nat} : ¬ Below [] t := nofun

/-- **The bytes of a smaller code are below those of a larger one.** A longer form begins with a
larger byte, and forms of the same length hold the digits of the code to the base 64. -/
theorem below_codeBytes {small large : Nat} (h : small < large) (hlarge : large < 0x110000) :
    Below (codeBytes small) (codeBytes large) := by
  have hdigits : ∀ code < 0x110000, code / 262144 % 8 = code / 262144 ∧
      code / 262144 = code / 4096 / 64 ∧ code / 4096 = code / 64 / 64 := by
    intro code hcode
    rw [Nat.div_div_eq_div_mul, Nat.div_div_eq_div_mul]
    omega
  have hsmall := hdigits small (Nat.lt_trans h hlarge)
  have hlarge := hdigits large hlarge
  unfold codeBytes
  split_ifs <;> simp only [below_cons_iff, not_below_nil, and_false, or_false] <;> omega

/-- What is below as numbers is smaller as bytes. -/
theorem Below.lt {s t : List Nat} (h : Below s t) (hs : ∀ a ∈ s, a < 256) (ht : ∀ b ∈ t, b < 256)
    (x y : Bytes) : s.map UInt8.ofNat ++ x < t.map UInt8.ofNat ++ y := by
  induction h with
  | @head a b s t hlt =>
      have ha := hs a List.mem_cons_self
      have hb := ht b List.mem_cons_self
      refine List.Lex.rel (UInt8.lt_iff_toNat_lt.mpr ?_)
      rwa [UInt8.toNat_ofNat', UInt8.toNat_ofNat', Nat.mod_eq_of_lt ha, Nat.mod_eq_of_lt hb]
  | tail _ ih =>
      exact List.Lex.cons (ih (fun a ha => hs a (List.mem_cons_of_mem _ ha))
        fun b hb => ht b (List.mem_cons_of_mem _ hb))

theorem utf8EncodeChar_append_lt {c d : Char} (h : c < d) (x y : Bytes) :
    String.utf8EncodeChar c ++ x < String.utf8EncodeChar d ++ y := by
  have hcode : d.toNat < 0x110000 := by
    have hvalid : d.toNat.isValidChar := d.valid
    rcases hvalid with hsmall | hlarge <;> omega
  rw [utf8EncodeChar_eq, utf8EncodeChar_eq]
  exact (below_codeBytes (UInt32.lt_iff_toNat_lt.mp h) hcode).lt
    (fun _ => lt_of_mem_codeBytes) (fun _ => lt_of_mem_codeBytes) x y

/-! ### Texts -/

theorem utf8_cons (c : Char) (s : Text) : utf8 (c :: s) = String.utf8EncodeChar c ++ utf8 s := rfl

/-- **The order of texts is that of their bytes.** -/
theorem utf8_lt_utf8 {s t : Text} (h : s < t) : utf8 s < utf8 t := by
  induction h with
  | @nil d t =>
      rw [utf8_cons]
      cases hbytes : String.utf8EncodeChar d with
      | nil => exact absurd hbytes (String.utf8EncodeChar_ne_nil)
      | cons b bytes => exact List.Lex.nil
  | rel hlt => exact utf8EncodeChar_append_lt hlt _ _
  | cons _ ih => exact List.append_left_lt ih

end Conch.Text
