import ClientStub.Json.Printer
import ClientStub.Proofs.Json.Grammar
import ClientStub.Proofs.Text.Separated
import Mathlib.Data.List.Forall2

/-!
# Printed values

What is printed of a value is one of its texts, if its numbers are whole.
-/

namespace ClientStub.Json

theorem unitText_hex4 {unit : Nat} (small : unit < 0x10000) : UnitText unit ('\\' :: 'u' :: Text.hex4 unit) := by
  have digit (n : Nat) : HexDigit (n % 16) (Text.hexDigit (n % 16)) := ⟨Nat.mod_lt n (by decide), .inl rfl⟩
  have shown := UnitText.escape (digit (unit / 4096)) (digit (unit / 256)) (digit (unit / 16)) (digit unit)
  have value : unit / 4096 % 16 * 4096 + unit / 256 % 16 * 256 + unit / 16 % 16 * 16 + unit % 16 = unit := by omega
  rwa [value] at shown

theorem charText_escapeChar (c : Char) : CharText c (escapeChar c) := by
  unfold escapeChar
  split
  case h_8 =>
    split
    · exact .unit (unitText_hex4 (by omega))
    · rename_i notQuote notBackslash _ _ _ _ _ printed
      exact .plain notQuote notBackslash (by omega)
  all_goals exact .short (by decide)

theorem charsText_escaped (text : List Char) : CharsText text (text.flatMap escapeChar) := by
  induction text with
  | nil => exact .nil
  | cons c text ih => exact .cons (charText_escapeChar c) ih

theorem stringText_quoted (text : String) : StringText text (quoted text).toList :=
  ⟨_, charsText_escaped text.toList, by simp [quoted]⟩

theorem spaces_replicate (count : Nat) : Spaces (List.replicate count ' ') := by
  intro c listed
  exact .inl (List.eq_of_mem_replicate listed)

theorem spaces_lineFeed {text : List Char} (spaces : Spaces text) : Spaces ('\n' :: text) := by
  intro c listed
  rcases List.mem_cons.1 listed with rfl | listed
  · simp
  · exact spaces c listed

theorem Spaces.append {front behind : List Char} (spaces : Spaces front) (spacesBehind : Spaces behind) :
    Spaces (front ++ behind) := by
  intro c listed
  rcases List.mem_append.1 listed with listed | listed
  · exact spaces c listed
  · exact spacesBehind c listed

/-- Pieces may have white space around them. -/
def Padded {ι : Type} (piece : ι → List Char → Prop) : Prop :=
  ∀ {item : ι} {text : List Char}, piece item text → ∀ {front behind : List Char}, Spaces front → Spaces behind →
    piece item (front ++ (text ++ behind))

theorem padded_spaced : Padded Spaced := by
  rintro inner _ ⟨before, after, spacesBefore, spacesAfter, rfl⟩ front behind spacesFront spacesBehind
  refine ⟨front ++ before, after ++ behind, ?_, ?_, by simp⟩
  · exact spacesFront.append spacesBefore
  · exact spacesAfter.append spacesBehind

theorem padded_memberText : Padded MemberText := by
  rintro member _ ⟨name, value, ⟨inner, named, around⟩, spaced, rfl⟩ front behind spacesFront spacesBehind
  have wideName := padded_spaced around spacesFront spaces_nil
  have wideValue := padded_spaced spaced spaces_nil spacesBehind
  exact ⟨_, _, ⟨inner, named, wideName⟩, wideValue, by simp⟩

section

variable {ι : Type} {piece : ι → List Char → Prop}

theorem Separated.following {item : ι} {items : List ι} {text : List Char}
    (pieces : Separated piece (item :: items) text) : Following piece (item :: items) (',' :: text) := by
  cases pieces with
  | some first rest => exact .next first rest

/-- Pieces with a comma behind each but the last, and white space behind the last. -/
theorem separated_lines (padded : Padded piece) {margin behind : List Char} (spaces : Spaces margin)
    (spacesBehind : Spaces behind) {items : List ι} {texts : List (List Char)}
    (each : List.Forall₂ piece items texts) {item : ι} {text : List Char} (first : piece item text) :
    Separated piece (item :: items) (text ++ (texts.flatMap (fun text => ',' :: (margin ++ text)) ++ behind)) := by
  induction each generalizing item text with
  | nil =>
    have last := padded first spaces_nil spacesBehind
    simpa using Separated.some last .none
  | cons next _ ih =>
    have rest := ih (padded next spaces spaces_nil)
    have whole := Separated.some first rest.following
    simpa using whole

/-- Entries on lines of their own, with a comma behind each but the last. -/
theorem separated_join (padded : Padded piece) (level : Nat) {items : List ι} {entries : List String}
    (filled : entries ≠ []) (each : List.Forall₂ (fun item entry => piece item entry.toList) items entries) :
    Separated piece items
      ('\n' ::
        ((Text.join ",\n" (entries.map (String.ofList (List.replicate (2 * (level + 1)) ' ') ++ ·))).toList ++
          '\n' :: List.replicate (2 * level) ' ')) := by
  have margin := spaces_lineFeed (spaces_replicate (2 * (level + 1)))
  have behind := spaces_lineFeed (spaces_replicate (2 * level))
  cases each with
  | nil => contradiction
  | @cons item entry items entries first others =>
    have each : List.Forall₂ piece items (entries.map String.toList) := List.forall₂_map_right_iff.2 others
    have whole := separated_lines padded margin behind each (padded first margin spaces_nil)
    rw [List.map_cons, Text.toList_join_cons]
    simpa [List.flatMap_map] using whole

end

/-- A value all of whose numbers are whole. -/
inductive Whole : Json → Prop where
  | null : Whole .null
  | bool (value : Bool) : Whole (.bool value)
  | integer (value : Int) : Whole (.number (.integer value))
  | string (value : String) : Whole (.string value)
  | array {items : List Json} (each : ∀ item ∈ items, Whole item) : Whole (.array items)
  | object {members : List (String × Json)} (each : ∀ member ∈ members, Whole member.2) : Whole (.object members)

attribute [simp] Whole.null Whole.bool Whole.integer Whole.string

@[simp] theorem whole_array_iff {items : List Json} : Whole (.array items) ↔ ∀ item ∈ items, Whole item :=
  ⟨fun | .array each => each, .array⟩

@[simp] theorem whole_object_iff {members : List (String × Json)} :
    Whole (.object members) ↔ ∀ member ∈ members, Whole member.2 :=
  ⟨fun | .object each => each, .object⟩

theorem Stored.whole {depth : Nat} {value : Json} (stored : Stored depth value) : Whole value := by
  induction stored with
  | null => exact .null
  | bool value => exact .bool value
  | integer => exact .integer _
  | string value => exact .string value
  | array _ ih => exact .array ih
  | object _ _ ih => exact .object ih

theorem prettyItems_eq_map (level : Nat) (items : List Json) :
    prettyItems level items = items.map (prettyAt level) := by
  induction items with
  | nil => rw [prettyItems, List.map_nil]
  | cons item items ih => rw [prettyItems, ih, List.map_cons]

theorem prettyMembers_eq_map (level : Nat) (members : List (String × Json)) :
    prettyMembers level members =
      members.map fun member => quoted member.1 ++ ": " ++ prettyAt level member.2 := by
  induction members with
  | nil => rw [prettyMembers, List.map_nil]
  | cons member members ih =>
    obtain ⟨name, value⟩ := member
    rw [prettyMembers, ih, List.map_cons]

theorem valueText_array {items : List Json} {print : Json → List Char} {text : List Char}
    (each : ∀ item ∈ items, ValueText item (print item)) (whole : ArrayText (items.map print) text) :
    ValueText (.array items) text := by
  have shown : ∀ piece ∈ items.map fun item => (item, print item), ValueText piece.1 piece.2 :=
    List.forall_mem_map.2 each
  have built := ValueText.array shown (by simpa [Function.comp_def] using whole)
  simpa [Function.comp_def] using built

theorem valueText_object {members : List (String × Json)} (print : Json → List Char) {text : List Char}
    (each : ∀ member ∈ members, ValueText member.2 (print member.2))
    (whole : ObjectText (members.map fun member => (member.1, print member.2)) text) :
    ValueText (.object members) text := by
  have shown : ∀ piece ∈ members.map fun member => (member, print member.2), ValueText piece.1.2 piece.2 :=
    List.forall_mem_map.2 each
  have order : ((members.map fun member => (member, print member.2)).map Prod.fst).Perm members := by
    simp [Function.comp_def]
  exact .object order shown (by simpa [Function.comp_def] using whole)

theorem memberText_printed (name : String) (level : Nat) (value : Json) :
    MemberText (name, (prettyAt level value).toList) (quoted name ++ ": " ++ prettyAt level value).toList := by
  refine ⟨(quoted name).toList, ' ' :: (prettyAt level value).toList, ?_, ?_, by simp⟩
  · exact ⟨_, stringText_quoted name, [], [], spaces_nil, spaces_nil, by simp⟩
  · exact ⟨[' '], [], by simp [Spaces], spaces_nil, by simp⟩

theorem arrayText_printed (level : Nat) (items : List Json) :
    ArrayText (items.map fun item => (prettyAt (level + 1) item).toList)
      (prettyAt level (.array items)).toList := by
  cases items with
  | nil =>
    rw [prettyAt]
    exact ⟨[], .none spaces_nil, rfl⟩
  | cons item items =>
    have each : List.Forall₂ (fun text (entry : String) => Spaced text entry.toList)
        ((item :: items).map fun item => (prettyAt (level + 1) item).toList)
        (prettyItems (level + 1) (item :: items)) := by
      rw [prettyItems_eq_map, List.forall₂_map_left_iff, List.forall₂_map_right_iff, List.forall₂_same]
      exact fun item _ => ⟨[], [], spaces_nil, spaces_nil, by simp⟩
    refine ⟨_, separated_join padded_spaced level (by simp [prettyItems]) each, ?_⟩
    rw [prettyAt, bracketed_eq]
    simp

theorem objectText_printed (level : Nat) (members : List (String × Json)) :
    ObjectText (members.map fun member => (member.1, (prettyAt (level + 1) member.2).toList))
      (prettyAt level (.object members)).toList := by
  cases members with
  | nil =>
    rw [prettyAt]
    exact ⟨[], .none spaces_nil, rfl⟩
  | cons member members =>
    have each : List.Forall₂ (fun member (entry : String) => MemberText member entry.toList)
        ((member :: members).map fun member => (member.1, (prettyAt (level + 1) member.2).toList))
        (prettyMembers (level + 1) (member :: members)) := by
      rw [prettyMembers_eq_map, List.forall₂_map_left_iff, List.forall₂_map_right_iff, List.forall₂_same]
      exact fun member _ => memberText_printed member.1 (level + 1) member.2
    refine ⟨_, separated_join padded_memberText level (by simp [prettyMembers]) each, ?_⟩
    rw [prettyAt, bracketed_eq]
    simp

/-- What is printed of a value is one of its texts. -/
theorem valueText_prettyAt {value : Json} (whole : Whole value) (level : Nat) :
    ValueText value (prettyAt level value).toList := by
  induction whole generalizing level with
  | null =>
    rw [prettyAt]
    exact .null
  | bool value =>
    rw [prettyAt]
    exact .bool value
  | integer value =>
    rw [prettyAt]
    exact .integer value
  | string value =>
    rw [prettyAt]
    exact .string (stringText_quoted value)
  | @array items _ ih =>
    have each := fun item (listed : item ∈ items) => ih item listed (level + 1)
    exact valueText_array each (arrayText_printed level items)
  | @object members _ ih =>
    have each := fun member (listed : member ∈ members) => ih member listed (level + 1)
    exact valueText_object (fun value => (prettyAt (level + 1) value).toList) each
      (objectText_printed level members)

theorem spaced_pretty {value : Json} : Spaced (pretty value).toList (pretty value).toList :=
  ⟨[], [], spaces_nil, spaces_nil, by simp⟩

end ClientStub.Json
