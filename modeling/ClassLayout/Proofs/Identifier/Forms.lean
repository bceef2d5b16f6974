import ClassLayout.Proofs.Identifier.Descriptor

namespace ClassLayout.Identifier

/-- The pieces of a name between separators of either kind. -/
def cuts (name : Text) : List Text := name.splitOnP fun c => c = '.' ∨ c = '/'

theorem segments_of_ofSegments {ss : List Text} {i : Identifier} (h : ofSegments ss = .ok i) :
    i.segments = ss := by
  unfold ofSegments at h
  split at h
  · cases h
  · rename_i name hlast
    split at h
    · cases h
    · split at h
      · cases h
      · cases h
        obtain ⟨package, rfl⟩ := List.getLast?_eq_some_iff.1 hlast
        exact congrArg (· ++ [name]) List.dropLast_concat

theorem exists_ofSegments {ss : List Text} (hne : ss ≠ []) (h : ∀ s ∈ ss, IsSegment s) :
    ∃ i, ofSegments ss = .ok i := by
  have hseparator : ss.find? (fun s => decide ('/' ∈ s)) = none :=
    List.find?_eq_none.2 fun s hs => by simpa using (h s hs).2
  have hempty : [] ∉ ss := fun hs => (h [] hs).1 rfl
  unfold ofSegments
  split
  · rename_i hnone
    exact absurd (List.getLast?_eq_none_iff.1 hnone) hne
  · split
    · rename_i bad hbad
      rw [hseparator] at hbad
      cases hbad
    · rw [dif_neg hempty]
      exact ⟨_, rfl⟩

theorem ofSegments_eq_ok_iff {ss : List Text} {i : Identifier} :
    ofSegments ss = .ok i ↔ i.segments = ss := by
  constructor
  · exact segments_of_ofSegments
  · rintro rfl
    obtain ⟨j, hj⟩ := exists_ofSegments i.segments_ne_nil fun _ => i.segment_valid
    rw [hj, segments_injective (segments_of_ofSegments hj)]

theorem pieces_separated (name : Text) :
    Text.pieces '/' (name.map fun c => if c = '.' then '/' else c) = cuts name := by
  induction name with
  | nil => rfl
  | cons c rest ih =>
      have hne := Text.pieces_ne_nil '/' (rest.map fun c => if c = '.' then '/' else c)
      rw [cuts, List.splitOnP_cons_eq_if_modifyHead, ← cuts, ← ih, List.map_cons, Text.pieces]
      by_cases hc : c = '.' ∨ c = '/'
      · rw [if_pos (by rcases hc with rfl | rfl <;> rfl), if_pos (decide_eq_true hc)]
      · obtain ⟨hpoint, hslash⟩ := not_or.1 hc
        rw [if_neg hpoint, if_neg hslash, if_neg (by simpa using hc)]
        cases hp : Text.pieces '/' (rest.map fun c => if c = '.' then '/' else c) with
        | nil => exact absurd hp hne
        | cons piece more => rfl

theorem descriptorOfBinaryName_eq (name : Text) :
    descriptorOfBinaryName name = descriptorOf (cuts name) := by
  rw [descriptorOf, ← pieces_separated, Text.joined_pieces]
  rfl

theorem not_separator_of_mem_cuts {name piece : Text} (h : piece ∈ cuts name) :
    ∀ c ∈ piece, ¬ (c = '.' ∨ c = '/') := by
  induction name generalizing piece with
  | nil =>
      rw [List.mem_singleton.1 h]
      exact List.forall_mem_nil _
  | cons d rest ih =>
      rw [cuts, List.splitOnP_cons_eq_if_modifyHead, ← cuts] at h
      by_cases hd : d = '.' ∨ d = '/'
      · rw [if_pos (decide_eq_true hd)] at h
        rcases List.mem_cons.1 h with rfl | h
        · exact List.forall_mem_nil _
        · exact ih h
      · rw [if_neg (by simpa using hd)] at h
        cases hcuts : cuts rest with
        | nil => exact absurd hcuts (List.splitOnP_ne_nil _ rest)
        | cons first more =>
            rw [hcuts, List.modifyHead_cons] at h
            rw [hcuts] at ih
            rcases List.mem_cons.1 h with rfl | h
            · exact List.forall_mem_cons.2 ⟨hd, ih List.mem_cons_self⟩
            · exact ih (List.mem_cons_of_mem _ h)

theorem cuts_joined {ss : List Text} (hne : ss ≠ [])
    (h : ∀ s ∈ ss, ∀ c ∈ s, ¬ (c = '.' ∨ c = '/')) : cuts (Text.joined '.' ss) = ss := by
  induction ss with
  | nil => exact absurd rfl hne
  | cons s ss ih =>
      obtain ⟨hs, hss⟩ := List.forall_mem_cons.1 h
      have hsplit : ∀ c ∈ s, decide (c = '.' ∨ c = '/') = false :=
        fun c hc => decide_eq_false (hs c hc)
      by_cases hempty : ss = []
      · subst hempty
        exact List.splitOnP_eq_singleton hsplit
      · rw [Text.joined_cons hempty, cuts,
          List.splitOnP_append_cons_of_forall_mem hsplit '.' (by decide), ← cuts, ih hempty hss]

theorem ofBinaryName_cases (name : Text) :
    (∃ i, ofBinaryName name = .ok i ∧ i.segments = cuts name) ∨
    ([] ∈ cuts name ∧ ofBinaryName name =
      .error (.invalidIdentifier (descriptorOfBinaryName name)
        (if [] ∈ (cuts name).dropLast then .emptyPackageSegment else .emptyClassName))) := by
  obtain ⟨package, last, hcuts⟩ : ∃ package last, cuts name = package ++ [last] :=
    ⟨_, _, (List.dropLast_concat_getLast (List.splitOnP_ne_nil _ name)).symm⟩
  have hpieces : ∀ p ∈ package ++ [last], '/' ∉ p := fun p hp hmem =>
    not_separator_of_mem_cuts (hcuts ▸ hp) '/' hmem (.inr rfl)
  rw [ofBinaryName, descriptorOfBinaryName_eq, hcuts, List.dropLast_concat]
  rcases parse_cases hpieces with ⟨hempty, hparse⟩ | ⟨hfull, rfl, hparse⟩ | ⟨i, hi, hparse⟩
  · rw [hparse, if_pos hempty]
    exact .inr ⟨List.mem_append_left _ hempty, rfl⟩
  · rw [hparse, if_neg hfull]
    exact .inr ⟨List.mem_append_right _ List.mem_cons_self, rfl⟩
  · exact .inl ⟨i, hparse, hi⟩

theorem ofBinaryName_eq_ok_iff {name : Text} {i : Identifier} :
    ofBinaryName name = .ok i ↔ i.segments = cuts name := by
  rcases ofBinaryName_cases name with ⟨j, hj, hsegments⟩ | ⟨hempty, herror⟩
  · rw [hj, ← hsegments, Except.ok.injEq, eq_comm]
    exact ⟨congrArg segments, segments_injective⟩
  · rw [herror]
    refine iff_of_false nofun fun hsegments => ?_
    exact (i.segment_valid (hsegments ▸ hempty)).1 rfl

/-- Segments name the identifier that their descriptor does, and a dotted name the one whose
segments are its pieces between points and slashes. Segments without points are named by joining
them. -/
theorem forms_agree :
    (∀ (ss : List Text) (i : Identifier), ofSegments ss = .ok i ↔
      parse ('L' :: Text.joined '/' ss ++ [';']) = .ok i ∧ i.segments = ss) ∧
    (∀ name : Text, (∃ i, ofBinaryName name = .ok i) ↔ ∀ piece ∈ cuts name, piece ≠ []) ∧
    (∀ (name : Text) (i : Identifier), ofBinaryName name = .ok i →
      i.segments = cuts name ∧ ∀ s ∈ i.segments, '.' ∉ s ∧ '/' ∉ s) ∧
    (∀ name : Text, [] ∈ cuts name → ofBinaryName name =
      .error (.invalidIdentifier ('L' :: name.map (fun c => if c = '.' then '/' else c) ++ [';'])
        (if [] ∈ (cuts name).dropLast then .emptyPackageSegment else .emptyClassName))) ∧
    ∀ i : Identifier, (∀ s ∈ i.segments, '.' ∉ s) →
      ofBinaryName (Text.joined '.' i.segments) = .ok i := by
  refine ⟨?_, ?_, ?_, ?_, ?_⟩
  · intro ss i
    rw [ofSegments_eq_ok_iff, parse_eq_ok_iff]
    constructor
    · rintro rfl
      exact ⟨rfl, rfl⟩
    · exact fun h => h.2
  · intro name
    constructor
    · rintro ⟨i, hi⟩ piece hpiece
      rw [← ofBinaryName_eq_ok_iff.1 hi] at hpiece
      exact (i.segment_valid hpiece).1
    · intro hfull
      rcases ofBinaryName_cases name with ⟨i, hi, _⟩ | ⟨hempty, _⟩
      · exact ⟨i, hi⟩
      · exact absurd rfl (hfull [] hempty)
  · intro name i hi
    have hsegments := ofBinaryName_eq_ok_iff.1 hi
    refine ⟨hsegments, fun s hs => ?_⟩
    have hclear := not_separator_of_mem_cuts (hsegments ▸ hs)
    exact ⟨fun hpoint => hclear '.' hpoint (.inl rfl), fun hslash => hclear '/' hslash (.inr rfl)⟩
  · intro name hempty
    rcases ofBinaryName_cases name with ⟨i, _, hsegments⟩ | ⟨_, herror⟩
    · exact absurd rfl (i.segment_valid (hsegments ▸ hempty)).1
    · exact herror
  · intro i hpoints
    refine ofBinaryName_eq_ok_iff.2 (cuts_joined i.segments_ne_nil fun s hs c hc => ?_).symm
    rintro (rfl | rfl)
    · exact hpoints s hs hc
    · exact (i.segment_valid hs).2 hc

theorem forms_agree_separators_of_both_kinds :
    (∃ i : Identifier, i.segments = ["comé".toList, "a;L".toList, "Outer$Inner".toList] ∧
      ofBinaryName "comé.a;L/Outer$Inner".toList = .ok i ∧
      (i.segments = cuts "comé.a;L/Outer$Inner".toList ∧ ∀ s ∈ i.segments, '.' ∉ s ∧ '/' ∉ s) ∧
      (∀ s ∈ i.segments, '.' ∉ s) ∧ ofBinaryName (Text.joined '.' i.segments) = .ok i) ∧
    [] ∈ cuts "com./Foo".toList ∧ ofBinaryName "com./Foo".toList =
      .error (.invalidIdentifier "Lcom//Foo;".toList .emptyPackageSegment) := by
  obtain ⟨-, -, hcut, hrefused, hjoined⟩ := forms_agree
  refine ⟨?_, by decide, hrefused _ (by decide)⟩
  refine ⟨⟨["comé".toList, "a;L".toList], "Outer$Inner".toList, by decide, by decide⟩, rfl, rfl,
    hcut _ _ rfl, by decide, hjoined _ (by decide)⟩

end ClassLayout.Identifier
