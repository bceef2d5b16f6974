import ClassLayout.Json.Printer
import ClassLayout.Proofs.Json.Reader

namespace ClassLayout.Json

theorem isDigits_decimal (n : Nat) : IsDigits (Text.decimal n) :=
  ⟨Nat.toDigits_ne_nil, fun _ h => Nat.isDigit_of_mem_toDigits (by decide) (by decide) h⟩

theorem eq_zero_of_head?_decimal {n : Nat} (h : (Text.decimal n).head? = some '0') : n = 0 := by
  induction n using Nat.strongRecOn with
  | ind n ih =>
      by_cases hn : n < 10
      · rw [Text.decimal, Nat.toDigits_of_lt_base hn, List.head?_cons, Option.some.injEq] at h
        exact Nat.digitChar_eq_zero.1 h
      · have hsplit : Text.decimal n = Text.decimal (n / 10) ++ [(n % 10).digitChar] :=
          Nat.toDigits_of_base_le (by decide) (by omega)
        obtain ⟨d, ds, hd⟩ := List.exists_cons_of_ne_nil (isDigits_decimal (n / 10)).1
        rw [hsplit, hd, List.cons_append, List.head?_cons] at h
        have hzero := ih (n / 10) (by omega) (by rw [hd, List.head?_cons, h])
        omega

theorem isNumber_decimal (n : Nat) : IsNumber (Text.decimal n) := by
  refine ⟨[], Text.decimal n, [], [], .inl rfl, ⟨isDigits_decimal n, ?_⟩, .inl rfl, .inl rfl, ?_⟩
  · intro h
    rw [eq_zero_of_head?_decimal h]
    rfl
  · rw [List.nil_append, List.append_nil, List.append_nil]

theorem escapedChar_cases (c : Char) :
    (∃ e, (e, c) ∈ shortEscapes ∧ escapedChar c = ['\\', e]) ∨
    (c.toNat < 0x20 ∧ escapedChar c =
      ['\\', 'u', '0', '0', Nat.digitChar (c.toNat / 16), Nat.digitChar (c.toNat % 16)]) ∨
    (c ≠ '"' ∧ c ≠ '\\' ∧ ¬ c.toNat < 0x20 ∧ escapedChar c = [c]) := by
  unfold escapedChar
  split
  case h_8 hquote hbackslash _ _ _ _ _ =>
    split
    · rename_i hcontrol
      exact .inr (.inl ⟨hcontrol, rfl⟩)
    · rename_i hcontrol
      exact .inr (.inr ⟨hquote, hbackslash, hcontrol, rfl⟩)
  all_goals exact .inl ⟨_, by decide, rfl⟩

theorem hexUnit?_control : ∀ n < 0x20,
    Parser.hexUnit? '0' '0' (Nat.digitChar (n / 16)) (Nat.digitChar (n % 16)) = some n := by
  decide

theorem spelled?_unit_of_lt {n : Nat} (h : n < 0xD800) (ps : List Parser.Piece) :
    Parser.spelled? (.unit n :: ps) = (Parser.spelled? ps).map (Char.ofNat n :: ·) := by
  have hhigh : Parser.isHighSurrogate n = false := by
    simp only [Parser.isHighSurrogate, Bool.and_eq_false_imp, decide_eq_true_eq]
    omega
  have hlow : Parser.isLowSurrogate n = false := by
    simp only [Parser.isLowSurrogate, Bool.and_eq_false_imp, decide_eq_true_eq]
    omega
  cases ps with
  | nil => simp only [Parser.spelled?, hhigh, hlow]; rfl
  | cons p ps =>
      cases p with
      | char c => simp only [Parser.spelled?, hhigh, hlow]; rfl
      | unit l => simp only [Parser.spelled?, hhigh, hlow]; rfl

theorem exists_spells (t : Text) :
    ∃ ps, Spells (t.flatMap escapedChar) ps ∧ Parser.spelled? ps = some t := by
  induction t with
  | nil => exact ⟨[], .nil, rfl⟩
  | cons c t ih =>
      obtain ⟨ps, hspells, hspelled⟩ := ih
      rw [List.flatMap_cons]
      rcases escapedChar_cases c with
        ⟨e, hmem, he⟩ | ⟨hcontrol, he⟩ | ⟨hquote, hbackslash, hcontrol, he⟩
      · refine ⟨.char c :: ps, ?_, ?_⟩
        · rw [he]
          exact .short hmem hspells
        · rw [Parser.spelled?, hspelled]
          rfl
      · refine ⟨.unit c.toNat :: ps, ?_, ?_⟩
        · rw [he]
          exact .unit (hexUnit?_control _ hcontrol) hspells
        · rw [spelled?_unit_of_lt (by omega), hspelled, Char.ofNat_toNat]
          rfl
      · refine ⟨.char c :: ps, ?_, ?_⟩
        · rw [he]
          exact .plain hquote hbackslash hcontrol hspells
        · rw [Parser.spelled?, hspelled]
          rfl

theorem Scalar.written (s : Scalar) : Written (.value s.toValue) s.print := by
  cases s with
  | null => exact .null
  | bool b =>
      cases b with
      | false => exact .false
      | true => exact .true
  | count n => exact .number (isNumber_decimal n)
  | text t =>
      obtain ⟨ps, hspells, hspelled⟩ := exists_spells t
      have hwritten := Written.string hspells
      rwa [hspelled] at hwritten

namespace Record

def member (f : Text × Scalar) : Option Text × Value := (some f.1, f.2.toValue)

theorem written_member {s s₁ s₂ : Text} (before : IsBlank s) (between : IsBlank s₁)
    (after : IsBlank s₂) (f : Text × Scalar) :
    Written (.member (member f))
      (s ++ (stringLiteral f.1 ++ ':' :: (s₁ ++ (f.2.print ++ s₂)))) := by
  obtain ⟨ps, hspells, hspelled⟩ := exists_spells f.1
  have hwritten := Written.member before hspells isBlank_nil (.item between f.2.written after)
  rw [hspelled] at hwritten
  simpa only [stringLiteral, member, List.append_assoc, List.cons_append, List.nil_append]
    using hwritten

/-- Fields of any layout, so long as each is a member of an object, also with the space that ends
the last line. -/
theorem written_members {form : Text × Scalar → Text} {s : Text}
    (h : ∀ f, Written (.member (member f)) (form f))
    (hlast : ∀ f, Written (.member (member f)) (form f ++ s)) {r : Record} (hne : r ≠ []) :
    Written (.members (r.map member)) (Text.joined ',' (r.map form) ++ s) := by
  induction r with
  | nil => exact absurd rfl hne
  | cons f r ih =>
      by_cases hr : r = []
      · subst hr
        exact .lastMember (hlast f)
      · have hmap : r.map form ≠ [] := mt List.map_eq_nil_iff.1 hr
        rw [List.map_cons, List.map_cons, Text.joined_cons hmap, List.append_assoc,
          List.cons_append]
        exact .moreMembers (h f) (ih hr)

theorem written_compact (r : Record) : Written (.value r.toValue) r.compact := by
  have hfield : ∀ f : Text × Scalar,
      Written (.member (member f)) (stringLiteral f.1 ++ ':' :: f.2.print) := by
    intro f
    have hwritten := written_member isBlank_nil isBlank_nil isBlank_nil f
    rwa [List.append_nil, List.nil_append, List.nil_append] at hwritten
  by_cases hne : r = []
  · subst hne
    exact .emptyObject isBlank_nil
  · have hmembers := written_members (s := []) hfield
      (fun f => by rw [List.append_nil]; exact hfield f) hne
    rw [List.append_nil] at hmembers
    exact .object hmembers

theorem written_pretty (r : Record) : Written (.value r.toValue) r.pretty := by
  have hbreak : IsBlank ['\n', ' ', ' '] := by decide
  have hspace : IsBlank [' '] := by decide
  have hfield : ∀ s, IsBlank s → ∀ f : Text × Scalar,
      Written (.member (member f)) (prettyField f ++ s) := by
    intro s hs f
    have hwritten := written_member hbreak hspace hs f
    simpa only [prettyField, List.append_assoc, List.cons_append, List.nil_append] using hwritten
  by_cases hne : r = []
  · subst hne
    exact .emptyObject isBlank_nil
  · have hmembers := written_members (s := ['\n'])
      (fun f => by have h := hfield [] isBlank_nil f; rwa [List.append_nil] at h)
      (hfield ['\n'] (by decide)) hne
    have hwritten := Written.object hmembers
    rw [List.append_assoc] at hwritten
    rw [pretty, if_neg (mt List.isEmpty_iff.1 hne)]
    exact hwritten

theorem parse_compact (r : Record) : Json.parse r.compact = some r.toValue := by
  have hparse := r.written_compact.parse isBlank_nil isBlank_nil
  rwa [List.nil_append, List.append_nil] at hparse

theorem parse_pretty (r : Record) : Json.parse r.pretty = some r.toValue := by
  have hparse := r.written_pretty.parse isBlank_nil isBlank_nil
  rwa [List.nil_append, List.append_nil] at hparse

end Record

end ClassLayout.Json
