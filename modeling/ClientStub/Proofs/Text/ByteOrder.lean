import ClientStub.Entries

/-!
# The order of texts and the order of their bytes

Texts are compared character by character. Their encodings compare in the same way byte by byte, because a
greater character differs from a lesser one at a byte that is greater, whatever follows.
-/

namespace ClientStub.Text

/-- The bytes of a text's encoding. -/
def octets (text : String) : List Nat := text.toUTF8.data.toList.map UInt8.toNat

def charOctets (c : Char) : List Nat := (String.utf8EncodeChar c).map UInt8.toNat

theorem octets_eq (text : String) : octets text = text.toList.flatMap charOctets := by
  have encoded : text.toUTF8.data.toList = text.toList.flatMap String.utf8EncodeChar := by
    conv => lhs; rw [← String.ofList_toList (s := text)]
    rw [String.toUTF8_eq_toByteArray]
    rw [String.toByteArray_ofList, List.utf8Encode, List.data_toByteArray]
  rw [octets, encoded, List.map_flatMap]
  rfl

theorem charOctets_eq (c : Char) : charOctets c =
    let v := c.toNat
    if v ≤ 127 then [v]
    else if v ≤ 2047 then [v / 64 % 32 + 192, v % 64 + 128]
    else if v ≤ 65535 then [v / 4096 % 16 + 224, v / 64 % 64 + 128, v % 64 + 128]
    else [v / 262144 % 8 + 240, v / 4096 % 64 + 128, v / 64 % 64 + 128, v % 64 + 128] := by
  have byte (n : Nat) (small : n < 256) : (UInt8.ofNat n).toNat = n := Nat.mod_eq_of_lt small
  unfold charOctets String.utf8EncodeChar
  dsimp only
  rw [show c.val.toNat = c.toNat from rfl]
  split
  · rw [List.map_singleton, byte _ (by omega)]
  · split
    · simp only [List.map_cons, List.map_nil]
      rw [byte _ (by omega), byte _ (by omega)]
    · split
      · simp only [List.map_cons, List.map_nil]
        rw [byte _ (by omega), byte _ (by omega), byte _ (by omega)]
      · simp only [List.map_cons, List.map_nil]
        rw [byte _ (by omega), byte _ (by omega), byte _ (by omega), byte _ (by omega)]

/-- Of two characters the lesser one has lesser bytes, whatever follows. -/
theorem charOctets_append_lt {c d : Char} (less : c < d) (behind beyond : List Nat) :
    charOctets c ++ behind < charOctets d ++ beyond := by
  have numbers : c.toNat < d.toNat := less
  have bound : d.toNat < 1114112 := by
    rcases d.valid with low | ⟨-, high⟩
    · exact Nat.lt_trans low (by decide)
    · exact high
  -- What stands before the last six bits of a number, down to the topmost three bits.
  have fronts (n : Nat) (small : n < 1114112) :
      n / 64 / 64 = n / 4096 ∧ n / 4096 / 64 = n / 262144 ∧ n / 262144 % 8 = n / 262144 :=
    ⟨Nat.div_div_eq_div_mul n 64 64, Nat.div_div_eq_div_mul n 4096 64, Nat.mod_eq_of_lt (by omega)⟩
  obtain ⟨c64, c4096, cTop⟩ := fronts c.toNat (Nat.lt_trans numbers bound)
  obtain ⟨d64, d4096, dTop⟩ := fronts d.toNat bound
  rw [charOctets_eq, charOctets_eq]
  dsimp only
  repeat' split
  all_goals
    simp only [List.cons_append, List.nil_append, List.cons_lt_cons_iff]
    omega

theorem flatMap_charOctets_lt {a b : List Char} (less : a < b) :
    a.flatMap charOctets < b.flatMap charOctets := by
  induction a generalizing b with
  | nil =>
    cases b with
    | nil => exact absurd less (List.lt_irrefl [])
    | cons d b =>
      have filled : charOctets d ≠ [] := by
        rw [charOctets, ne_eq, List.map_eq_nil_iff]
        exact String.utf8EncodeChar_ne_nil
      obtain ⟨n, more, source⟩ := List.exists_cons_of_ne_nil filled
      rw [List.flatMap_cons, source]
      exact List.nil_lt_cons n _
  | cons c a ih =>
    cases b with
    | nil => exact absurd less (List.not_lt_nil _)
    | cons d b =>
      rw [List.flatMap_cons, List.flatMap_cons]
      rcases List.cons_lt_cons_iff.1 less with head | ⟨rfl, rest⟩
      · exact charOctets_append_lt head _ _
      · exact List.append_left_lt (ih rest)

/-- A lesser text has lesser bytes. -/
theorem octets_lt_octets {a b : String} (less : a < b) : octets a < octets b := by
  rw [octets_eq, octets_eq]
  exact flatMap_charOctets_lt (String.lt_iff.1 less)

/-- The names of sorted entries increase by their bytes. -/
theorem pairwise_octets_names {α : Type} {entries : Entries α} (sorted : entries.IsSorted) :
    entries.names.Pairwise fun a b => octets a < octets b := by
  rw [Entries.names, List.pairwise_map]
  exact sorted.imp octets_lt_octets

end ClientStub.Text
