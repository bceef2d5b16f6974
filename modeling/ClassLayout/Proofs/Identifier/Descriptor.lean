import ClassLayout.Identifier

namespace ClassLayout.Identifier

def descriptorOf (pieces : List Text) : Text := 'L' :: Text.joined '/' pieces ++ [';']

theorem display_eq (i : Identifier) : i.display = descriptorOf i.segments := rfl

theorem betweenMarkers?_eq_some_iff {d inner : Text} :
    betweenMarkers? d = some inner ↔ d = 'L' :: inner ++ [';'] := by
  constructor
  · intro h
    cases d with
    | nil => cases h
    | cons c rest =>
        by_cases hc : c = 'L'
        · subst hc
          by_cases hlast : rest.getLast? = some ';'
          · rw [betweenMarkers?, if_pos hlast, Option.some.injEq] at h
            obtain ⟨before, rfl⟩ := List.getLast?_eq_some_iff.1 hlast
            rw [List.dropLast_concat] at h
            rw [h, List.cons_append]
          · rw [betweenMarkers?, if_neg hlast] at h
            cases h
        · rw [betweenMarkers?.eq_2 _ fun rest he => hc (List.cons.inj he).1] at h
          cases h
  · rintro rfl
    rw [List.cons_append, betweenMarkers?, if_pos List.getLast?_concat, List.dropLast_concat]

theorem betweenMarkers?_eq_none_iff {d : Text} :
    betweenMarkers? d = none ↔ ∀ inner, d ≠ 'L' :: inner ++ [';'] := by
  rw [Option.eq_none_iff_forall_ne_some]
  exact forall_congr' fun inner => not_congr betweenMarkers?_eq_some_iff

theorem ofPieces_cases {pieces package : List Text} {name : Text} (hp : pieces = package ++ [name])
    (h : ∀ p ∈ pieces, '/' ∉ p) :
    ([] ∈ package ∧ ofPieces pieces h = .error .emptyPackageSegment) ∨
    ([] ∉ package ∧ name = [] ∧ ofPieces pieces h = .error .emptyClassName) ∨
    ∃ i, i.segments = package ++ [name] ∧ ofPieces pieces h = .ok i := by
  have hdrop : pieces.dropLast = package := by rw [hp, List.dropLast_concat]
  have hlast : pieces.getLast? = some name := by rw [hp, List.getLast?_concat]
  have hempty : (∃ p ∈ pieces.dropLast, p = []) ↔ [] ∈ package := by
    rw [hdrop, exists_eq_right]
  unfold ofPieces
  split
  · rename_i hnone
    rw [hlast] at hnone
    cases hnone
  · rename_i name' hsome
    obtain rfl : name = name' := Option.some.inj (hlast.symm.trans hsome)
    by_cases hd : [] ∈ package
    · rw [dif_pos (hempty.2 hd)]
      exact .inl ⟨hd, rfl⟩
    · rw [dif_neg (mt hempty.1 hd)]
      by_cases hn : name = []
      · rw [dif_pos hn]
        exact .inr (.inl ⟨hd, hn, rfl⟩)
      · rw [dif_neg hn]
        refine .inr (.inr ⟨_, ?_, rfl⟩)
        exact congrArg (· ++ [name]) hdrop

theorem parse_cases {package : List Text} {name : Text} (h : ∀ p ∈ package ++ [name], '/' ∉ p) :
    ([] ∈ package ∧ parse (descriptorOf (package ++ [name])) =
      .error (.invalidIdentifier (descriptorOf (package ++ [name])) .emptyPackageSegment)) ∨
    ([] ∉ package ∧ name = [] ∧ parse (descriptorOf (package ++ [name])) =
      .error (.invalidIdentifier (descriptorOf (package ++ [name])) .emptyClassName)) ∨
    ∃ i, i.segments = package ++ [name] ∧ parse (descriptorOf (package ++ [name])) = .ok i := by
  have hmarkers : betweenMarkers? (descriptorOf (package ++ [name])) =
      some (Text.joined '/' (package ++ [name])) := betweenMarkers?_eq_some_iff.2 rfl
  have hpieces : Text.pieces '/' (Text.joined '/' (package ++ [name])) = package ++ [name] :=
    Text.pieces_joined (List.concat_ne_nil name package) h
  simp only [parse, hmarkers]
  rcases ofPieces_cases hpieces fun _ => Text.not_mem_of_mem_pieces with
    ⟨hd, he⟩ | ⟨hd, hn, he⟩ | ⟨i, hi, he⟩
  · rw [he]
    exact .inl ⟨hd, rfl⟩
  · rw [he]
    exact .inr (.inl ⟨hd, hn, rfl⟩)
  · rw [he]
    exact .inr (.inr ⟨i, hi, rfl⟩)

theorem parse_of_missingMarkers {d : Text} (h : ∀ inner, d ≠ 'L' :: inner ++ [';']) :
    parse d = .error (.invalidIdentifier d .missingMarkers) := by
  rw [parse, betweenMarkers?_eq_none_iff.2 h]

theorem exists_pieces (inner : Text) : ∃ package name,
    (∀ p ∈ package ++ [name], '/' ∉ p) ∧
      'L' :: inner ++ [';'] = descriptorOf (package ++ [name]) := by
  have hne := Text.pieces_ne_nil '/' inner
  refine ⟨(Text.pieces '/' inner).dropLast, (Text.pieces '/' inner).getLast hne, ?_, ?_⟩
  · rw [List.dropLast_concat_getLast]
    exact fun _ => Text.not_mem_of_mem_pieces
  · rw [List.dropLast_concat_getLast, descriptorOf, Text.joined_pieces]

theorem descriptorOf_injective {pieces pieces' : List Text} (hne : pieces ≠ [])
    (hne' : pieces' ≠ []) (h : ∀ p ∈ pieces, '/' ∉ p) (h' : ∀ p ∈ pieces', '/' ∉ p)
    (he : descriptorOf pieces = descriptorOf pieces') : pieces = pieces' := by
  have hjoined : Text.joined '/' pieces = Text.joined '/' pieces' :=
    List.append_cancel_right (List.cons.inj he).2
  have hpieces := congrArg (Text.pieces '/') hjoined
  rwa [Text.pieces_joined hne h, Text.pieces_joined hne' h'] at hpieces

/-- A reason told for refusing a text: the first of three flaws, in the order in which they are
looked for. -/
structure Explains (d reason : Text) : Prop where
  markers : reason = "expected leading 'L' and trailing ';'".toList ↔
    ∀ inner, d ≠ 'L' :: inner ++ [';']
  package : reason = "empty package segment".toList ↔
    ∃ package name, (∀ p ∈ package ++ [name], '/' ∉ p) ∧ d = descriptorOf (package ++ [name]) ∧
      [] ∈ package
  className : reason = "empty class name".toList ↔
    ∃ package, (∀ p ∈ package, '/' ∉ p) ∧ d = descriptorOf (package ++ [[]]) ∧ [] ∉ package

theorem eq_of_descriptorOf_eq {package package' : List Text} {name name' : Text}
    (h : ∀ p ∈ package ++ [name], '/' ∉ p) (h' : ∀ p ∈ package' ++ [name'], '/' ∉ p)
    (he : descriptorOf (package ++ [name]) = descriptorOf (package' ++ [name'])) :
    package = package' ∧ name = name' := by
  have hpieces := descriptorOf_injective (List.concat_ne_nil _ _) (List.concat_ne_nil _ _) h h' he
  obtain ⟨hpackage, hname⟩ := List.append_inj' hpieces rfl
  exact ⟨hpackage, List.singleton_inj.1 hname⟩

theorem not_mem_of_mem_concat_nil {package : List Text} (h : ∀ p ∈ package, '/' ∉ p) :
    ∀ p ∈ package ++ [[]], '/' ∉ p := by
  intro p hp
  rcases List.mem_append.1 hp with hp | hp
  · exact h p hp
  · rw [List.mem_singleton.1 hp]
    exact List.not_mem_nil

theorem explains_missingMarkers {d : Text} (h : ∀ inner, d ≠ 'L' :: inner ++ [';']) :
    Explains d IdentifierFlaw.missingMarkers.message := by
  constructor
  · exact iff_of_true rfl h
  · apply iff_of_false (by decide)
    rintro ⟨package, name, _, he, _⟩
    exact h _ he
  · apply iff_of_false (by decide)
    rintro ⟨package, _, he, _⟩
    exact h _ he

theorem explains_emptyPackageSegment {package : List Text} {name : Text}
    (h : ∀ p ∈ package ++ [name], '/' ∉ p) (hempty : [] ∈ package) :
    Explains (descriptorOf (package ++ [name])) IdentifierFlaw.emptyPackageSegment.message := by
  constructor
  · exact iff_of_false (by decide) fun hmissing => hmissing _ rfl
  · exact iff_of_true rfl ⟨package, name, h, rfl, hempty⟩
  · apply iff_of_false (by decide)
    rintro ⟨package', h', he, hfull⟩
    obtain ⟨rfl, _⟩ := eq_of_descriptorOf_eq h (not_mem_of_mem_concat_nil h') he
    exact hfull hempty

theorem explains_emptyClassName {package : List Text} (h : ∀ p ∈ package, '/' ∉ p)
    (hfull : [] ∉ package) :
    Explains (descriptorOf (package ++ [[]])) IdentifierFlaw.emptyClassName.message := by
  constructor
  · exact iff_of_false (by decide) fun hmissing => hmissing _ rfl
  · apply iff_of_false (by decide)
    rintro ⟨package', name, h', he, hempty⟩
    obtain ⟨rfl, _⟩ := eq_of_descriptorOf_eq (not_mem_of_mem_concat_nil h) h' he
    exact hfull hempty
  · exact iff_of_true rfl ⟨package, h, rfl, hfull⟩

theorem not_mem_segments (i : Identifier) : ∀ s ∈ i.package ++ [i.className], '/' ∉ s :=
  fun _ hs => (i.segment_valid hs).2

theorem parse_display (i : Identifier) : parse i.display = .ok i := by
  rcases parse_cases i.not_mem_segments with ⟨hempty, _⟩ | ⟨_, hempty, _⟩ | ⟨j, hj, hparse⟩
  · exact absurd rfl (i.package_valid [] hempty).1
  · exact absurd hempty i.className_valid.1
  · rw [segments_injective hj] at hparse
    exact hparse

theorem display_of_parse {d : Text} {i : Identifier} (h : parse d = .ok i) : i.display = d := by
  by_cases hmarkers : ∃ inner, d = 'L' :: inner ++ [';']
  · obtain ⟨inner, rfl⟩ := hmarkers
    obtain ⟨package, name, hp, he⟩ := exists_pieces inner
    rw [he] at h ⊢
    rcases parse_cases hp with ⟨_, hparse⟩ | ⟨_, _, hparse⟩ | ⟨j, hj, hparse⟩
    · rw [hparse] at h
      cases h
    · rw [hparse] at h
      cases h
    · rw [hparse] at h
      rw [← Except.ok.inj h, display_eq, hj]
  · rw [parse_of_missingMarkers (not_exists.1 hmarkers)] at h
    cases h

theorem parse_eq_ok_iff {d : Text} {i : Identifier} : parse d = .ok i ↔ i.display = d :=
  ⟨display_of_parse, fun h => h ▸ parse_display i⟩

theorem display_injective : Function.Injective display := by
  intro i j h
  exact Except.ok.inj ((parse_display i).symm.trans (h ▸ parse_display j))

theorem parse_explains (d : Text) :
    (∃ i, parse d = .ok i) ∨
      ∃ flaw, parse d = .error (.invalidIdentifier d flaw) ∧ Explains d flaw.message := by
  by_cases hmarkers : ∃ inner, d = 'L' :: inner ++ [';']
  · obtain ⟨inner, rfl⟩ := hmarkers
    obtain ⟨package, name, hp, he⟩ := exists_pieces inner
    rw [he]
    rcases parse_cases hp with ⟨hempty, hparse⟩ | ⟨hfull, rfl, hparse⟩ | ⟨i, _, hparse⟩
    · exact .inr ⟨_, hparse, explains_emptyPackageSegment hp hempty⟩
    · have hpackage : ∀ p ∈ package, '/' ∉ p := fun p h => hp p (List.mem_append_left _ h)
      exact .inr ⟨_, hparse, explains_emptyClassName hpackage hfull⟩
    · exact .inl ⟨i, hparse⟩
  · have hmissing := not_exists.1 hmarkers
    exact .inr ⟨_, parse_of_missingMarkers hmissing, explains_missingMarkers hmissing⟩

theorem exists_segments_eq_iff {ss : List Text} :
    (∃ i : Identifier, i.segments = ss) ↔ ss ≠ [] ∧ ∀ s ∈ ss, IsSegment s := by
  constructor
  · rintro ⟨i, rfl⟩
    exact ⟨i.segments_ne_nil, fun _ => i.segment_valid⟩
  · rintro ⟨hne, hvalid⟩
    refine ⟨⟨ss.dropLast, ss.getLast hne, ?_, ?_⟩, List.dropLast_concat_getLast hne⟩
    · exact fun s hs => hvalid s (List.dropLast_subset ss hs)
    · exact hvalid _ (List.getLast_mem hne)

/-- A text is read as some segments just where it is these, joined and between the markers. Reading
and writing undo each other, and a text that is refused is refused for its first flaw. -/
theorem parse_iff_descriptor :
    (∀ (d : Text) (ss : List Text), (∃ i, parse d = .ok i ∧ i.segments = ss) ↔
      ss ≠ [] ∧ (∀ s ∈ ss, s ≠ [] ∧ '/' ∉ s) ∧ d = 'L' :: Text.joined '/' ss ++ [';']) ∧
    (∀ d i, parse d = .ok i ↔ i.display = d) ∧
    Function.Injective display ∧
    ∀ d, (∃ i, parse d = .ok i) ∨
      ∃ flaw, parse d = .error (.invalidIdentifier d flaw) ∧ Explains d flaw.message := by
  refine ⟨?_, fun _ _ => parse_eq_ok_iff, display_injective, parse_explains⟩
  intro d ss
  constructor
  · rintro ⟨i, hparse, rfl⟩
    exact ⟨i.segments_ne_nil, fun _ => i.segment_valid, (parse_eq_ok_iff.1 hparse).symm⟩
  · rintro ⟨hne, hvalid, rfl⟩
    obtain ⟨i, rfl⟩ := exists_segments_eq_iff.2 ⟨hne, hvalid⟩
    exact ⟨i, i.parse_display, rfl⟩

-- an empty piece of the package hides the empty name of the class
example : parse "La//;".toList =
    .error (.invalidIdentifier "La//;".toList .emptyPackageSegment) := rfl

end ClassLayout.Identifier
