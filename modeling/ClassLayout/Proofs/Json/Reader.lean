import ClassLayout.Proofs.Json.Grammar

namespace ClassLayout.Json

open ClassLayout.Json.Parser (skipSpace)

def NextIn (chars rest : Text) : Prop := ∀ c ∈ rest.head?, c ∈ chars

theorem nextIn_cons {chars : Text} {c : Char} (h : c ∈ chars) (rest : Text) :
    NextIn chars (c :: rest) := by
  intro c' hc
  rwa [← Option.mem_some.1 hc]

theorem NextIn.mono {chars chars' rest : Text} (h : NextIn chars rest) (hc : chars ⊆ chars') :
    NextIn chars' rest := fun c hm => hc (h c hm)

def endings : Text := [' ', '\n', '\t', '\r', ',', ']', '}']

/-- Nothing that would go on with a number may follow a value. -/
def Ends (rest : Text) : Prop := NextIn endings rest

theorem isSpace_iff {c : Char} : Parser.isSpace c ↔ c ∈ [' ', '\n', '\t', '\r'] := by
  simp [Parser.isSpace, or_assoc]

theorem IsBlank.append_ends {s rest : Text} (h : IsBlank s) (hrest : Ends rest) :
    Ends (s ++ rest) := by
  cases s with
  | nil => exact hrest
  | cons c s =>
      have hc := isSpace_iff.1 (h c List.mem_cons_self)
      exact nextIn_cons (List.mem_append_left [',', ']', '}'] hc) _

theorem IsBlank.skipSpace_append {s : Text} (h : IsBlank s) (t : Text) :
    skipSpace (s ++ t) = skipSpace t := List.dropWhile_append_of_pos h

theorem skipSpace_cons {c : Char} (h : ¬ Parser.isSpace c) (t : Text) :
    skipSpace (c :: t) = c :: t := List.dropWhile_cons_of_neg h

theorem IsBlank.skipSpace_eq {s : Text} (h : IsBlank s) : skipSpace s = [] := by
  have happend := h.skipSpace_append []
  rwa [List.append_nil] at happend

section Numbers

def NoDigitNext (rest : Text) : Prop := ∀ c ∈ rest.head?, ¬ c.isDigit

theorem NextIn.noDigitNext {chars rest : Text} (h : NextIn chars rest)
    (hchars : chars.any Char.isDigit = false) : NoDigitNext rest :=
  fun c hc => List.any_eq_false.1 hchars c (h c hc)

theorem IsDigits.digits?_append {ds rest : Text} (h : IsDigits ds) (hrest : NoDigitNext rest) :
    Parser.digits? (ds ++ rest) = some (ds, rest) := by
  have hnone : rest.takeWhile Char.isDigit = [] ∧ rest.dropWhile Char.isDigit = rest := by
    cases rest with
    | nil => exact ⟨rfl, rfl⟩
    | cons c rest =>
        have hc : ¬ c.isDigit := hrest c rfl
        exact ⟨List.takeWhile_cons_of_neg hc, List.dropWhile_cons_of_neg hc⟩
  have htake : (ds ++ rest).takeWhile Char.isDigit = ds := by
    rw [List.takeWhile_append_of_pos h.2, hnone.1, List.append_nil]
  have hdrop : (ds ++ rest).dropWhile Char.isDigit = rest := by
    rw [List.dropWhile_append_of_pos h.2, hnone.2]
  rw [Parser.digits?, htake, hdrop]
  cases ds with
  | nil => exact absurd rfl h.1
  | cons d ds => rfl

theorem IsWhole.whole?_append {w rest : Text} (h : IsWhole w) (hrest : NoDigitNext rest) :
    Parser.whole? (w ++ rest) = some (w, rest) := by
  by_cases hzero : w.head? = some '0'
  · rw [h.2 hzero]
    rfl
  · rw [Parser.whole?.eq_2, h.1.digits?_append hrest]
    intro more he
    apply hzero
    cases w with
    | nil => exact absurd rfl h.1.1
    | cons d ds => rw [(List.cons.inj he).1, List.head?_cons]

theorem IsFraction.fraction?_append {f rest : Text} (h : IsFraction f)
    (hrest : NoDigitNext rest) (hpoint : ∀ c ∈ rest.head?, c ≠ '.') :
    Parser.fraction? (f ++ rest) = some (f, rest) := by
  rcases h with rfl | ⟨ds, hds, rfl⟩
  · rw [List.nil_append, Parser.fraction?.eq_2]
    rintro more rfl
    exact hpoint '.' rfl rfl
  · rw [List.cons_append, Parser.fraction?, hds.digits?_append hrest]
    rfl

theorem IsDigits.append_ne_cons {ds : Text} {c : Char} (h : IsDigits ds) (hc : ¬ c.isDigit)
    (rest more : Text) : ds ++ rest ≠ c :: more := by
  cases ds with
  | nil => exact absurd rfl h.1
  | cons d ds =>
      intro he
      rw [← (List.cons.inj he).1] at hc
      exact hc (h.2 d List.mem_cons_self)

theorem IsDigits.sign_append {ds : Text} (h : IsDigits ds) (rest : Text) :
    Parser.sign (ds ++ rest) = ([], ds ++ rest) :=
  Parser.sign.eq_3 _ (h.append_ne_cons (by decide) rest) (h.append_ne_cons (by decide) rest)

theorem IsExponent.exponent?_append {e rest : Text} (h : IsExponent e)
    (hrest : NoDigitNext rest) (hletter : ∀ c ∈ rest.head?, c ≠ 'e' ∧ c ≠ 'E') :
    Parser.exponent? (e ++ rest) = some (e, rest) := by
  rcases h with rfl | ⟨letter, sign, ds, hl, hsign, hds, rfl⟩
  · cases rest with
    | nil => rfl
    | cons c rest =>
        rw [List.nil_append, Parser.exponent?, if_neg (not_or.2 (hletter c rfl))]
  · have hread : Parser.sign (sign ++ (ds ++ rest)) = (sign, ds ++ rest) := by
      rcases hsign with rfl | rfl | rfl
      · exact hds.sign_append rest
      · rfl
      · rfl
    simp only [List.cons_append, List.append_assoc, Parser.exponent?, if_pos hl, hread,
      hds.digits?_append hrest]
    rfl

theorem IsDigits.minus_append {ds : Text} (h : IsDigits ds) (rest : Text) :
    Parser.minus (ds ++ rest) = ([], ds ++ rest) :=
  Parser.minus.eq_2 _ (h.append_ne_cons (by decide) rest)

theorem IsExponent.nextIn_append {e rest : Text} (h : IsExponent e) (hrest : Ends rest) :
    NextIn ('e' :: 'E' :: endings) (e ++ rest) := by
  rcases h with rfl | ⟨letter, sign, ds, hl, _, _, rfl⟩
  · exact hrest.mono (List.subset_append_right ['e', 'E'] endings)
  · refine nextIn_cons ?_ _
    rcases hl with rfl | rfl
    · exact List.mem_cons_self
    · exact List.mem_cons_of_mem _ List.mem_cons_self

theorem IsFraction.nextIn_append {f rest : Text} (h : IsFraction f)
    (hrest : NextIn ('e' :: 'E' :: endings) rest) :
    NextIn ('.' :: 'e' :: 'E' :: endings) (f ++ rest) := by
  rcases h with rfl | ⟨ds, _, rfl⟩
  · exact hrest.mono (List.subset_cons_self _ _)
  · exact nextIn_cons List.mem_cons_self _

theorem IsNumber.number?_append {t rest : Text} (h : IsNumber t) (hrest : Ends rest) :
    Parser.number? (t ++ rest) = some (t, rest) := by
  obtain ⟨m, w, f, e, hm, hw, hf, he, rfl⟩ := h
  have hexponent := he.nextIn_append hrest
  have hfraction := hf.nextIn_append hexponent
  have hminus : Parser.minus (m ++ (w ++ (f ++ (e ++ rest)))) = (m, w ++ (f ++ (e ++ rest))) := by
    rcases hm with rfl | rfl
    · exact hw.1.minus_append _
    · rfl
  have hreadWhole := hw.whole?_append (hfraction.noDigitNext (by decide))
  have hreadFraction := hf.fraction?_append (hexponent.noDigitNext (by decide)) fun c hc he =>
    absurd (he ▸ hexponent c hc) (by decide)
  have hreadExponent := he.exponent?_append (hrest.noDigitNext (by decide)) fun c hc =>
    ⟨fun he => absurd (he ▸ hrest c hc) (by decide), fun he => absurd (he ▸ hrest c hc) (by decide)⟩
  simp only [Parser.number?, List.append_assoc, hminus, hreadWhole, hreadFraction, hreadExponent,
    Option.bind_eq_bind, Option.bind_some, Option.pure_def]

end Numbers

section Strings

theorem escaped?_of_mem : ∀ p ∈ shortEscapes, Parser.escaped? p.1 = some p.2 := by decide

theorem ne_of_mem_shortEscapes : ∀ p ∈ shortEscapes, p.1 ≠ 'u' := by decide

theorem pieces_plain {c : Char} (hquote : c ≠ '"') (hbackslash : c ≠ '\\')
    (hcontrol : ¬ c.toNat < 0x20) (t : Text) :
    Parser.pieces (c :: t) = (Parser.pieces t).bind fun r => some (.char c :: r.1, r.2) := by
  rw [Parser.pieces.eq_5 c _ hquote (fun _ _ _ _ _ he => absurd he hbackslash)
    fun _ _ he => absurd he hbackslash, if_neg hcontrol]
  rfl

theorem pieces_short {e : Char} (hu : e ≠ 'u') (t : Text) :
    Parser.pieces ('\\' :: e :: t) = (Parser.escaped? e).bind fun c =>
      (Parser.pieces t).bind fun r => some (.char c :: r.1, r.2) := by
  rw [Parser.pieces.eq_4 e _ fun _ _ _ _ _ he => absurd he hu]
  rfl

theorem Spells.pieces_append {t : Text} {ps : List Parser.Piece} (h : Spells t ps) (rest : Text) :
    Parser.pieces (t ++ '"' :: rest) = some (ps, rest) := by
  induction h with
  | nil => rfl
  | plain hquote hbackslash hcontrol _ ih =>
      rw [List.cons_append, pieces_plain hquote hbackslash hcontrol, ih]
      rfl
  | short hescape _ ih =>
      have hu := ne_of_mem_shortEscapes _ hescape
      rw [List.cons_append, List.cons_append, pieces_short hu, escaped?_of_mem _ hescape, ih]
      rfl
  | unit hdigits _ ih =>
      simp only [List.cons_append, Parser.pieces, hdigits, ih]
      rfl

theorem Spells.string?_append {t : Text} {ps : List Parser.Piece} (h : Spells t ps) (rest : Text) :
    Parser.string? (t ++ '"' :: rest) = some (Parser.spelled? ps, rest) := by
  rw [Parser.string?, h.pieces_append]
  rfl

end Strings

section Values

open ClassLayout.Json.Parser (value items moreItems members moreMembers)

theorem IsBlank.value_append {s : Text} (h : IsBlank s) (depth : Nat) (t : Text) :
    value depth (s ++ t) = value depth t := by
  cases depth with
  | zero => rfl
  | succ depth => rw [value, value, h.skipSpace_append]

theorem IsBlank.moreItems_append {s : Text} (h : IsBlank s) (depth : Nat) (t : Text) :
    moreItems depth (s ++ t) = moreItems depth t := by
  cases depth with
  | zero => rfl
  | succ depth => rw [moreItems, moreItems, h.value_append]

theorem IsBlank.moreMembers_append {s : Text} (h : IsBlank s) (depth : Nat) (t : Text) :
    moreMembers depth (s ++ t) = moreMembers depth t := by
  cases depth with
  | zero => rfl
  | succ depth => rw [moreMembers, moreMembers, h.skipSpace_append]

/-- Signs at which no number begins: those of the other values, space, and the closing ones. -/
def otherSigns : Text := ['"', '[', '{', 'n', 't', 'f', ' ', '\n', '\t', '\r', ']', '}']

theorem not_isSpace_of_not_mem {c : Char} (h : c ∉ otherSigns) : ¬ Parser.isSpace c := by
  intro hspace
  have hsub : [' ', '\n', '\t', '\r'] ⊆ otherSigns := by decide
  exact h (hsub (isSpace_iff.1 hspace))

theorem IsNumber.exists_cons {t : Text} (h : IsNumber t) :
    ∃ c u, t = c :: u ∧ c ∉ otherSigns := by
  obtain ⟨m, w, f, e, hm, hw, _, _, rfl⟩ := h
  rcases hm with rfl | rfl
  · cases w with
    | nil => exact absurd rfl hw.1.1
    | cons d ds =>
        have hd : d.isDigit := hw.1.2 d List.mem_cons_self
        have hother : otherSigns.any Char.isDigit = false := by decide
        exact ⟨d, _, rfl, fun hm => List.any_eq_false.1 hother d hm hd⟩
  · exact ⟨'-', _, rfl, by decide⟩

theorem value_of_number {c : Char} (hc : c ∉ otherSigns) (u : Text) (depth : Nat) :
    value (depth + 1) (c :: u) =
      (Parser.number? (c :: u)).bind fun r => some (.number r.1, r.2) := by
  rw [value, skipSpace_cons (not_isSpace_of_not_mem hc)]
  split
  case h_1 he => cases he
  case h_8 => rfl
  all_goals
    rename_i he
    rw [(List.cons.inj he).1] at hc
    exact absurd (by decide) hc

theorem value_quote (depth : Nat) (t : Text) : value (depth + 1) ('"' :: t) =
    (Parser.string? t).bind fun r => some (.string r.1, r.2) := rfl

theorem value_bracket (depth : Nat) (t : Text) : value (depth + 1) ('[' :: t) =
    (items depth t).bind fun r => some (.array r.1, r.2) := rfl

theorem value_brace (depth : Nat) (t : Text) : value (depth + 1) ('{' :: t) =
    (members depth t).bind fun r => some (.object r.1, r.2) := rfl

theorem IsBlank.items_append {s : Text} (h : IsBlank s) (depth : Nat) (rest : Text) :
    items (depth + 1) (s ++ ']' :: rest) = some ([], rest) := by
  rw [items, h.skipSpace_append]
  rfl

theorem IsBlank.members_append {s : Text} (h : IsBlank s) (depth : Nat) (rest : Text) :
    members (depth + 1) (s ++ '}' :: rest) = some ([], rest) := by
  rw [members, h.skipSpace_append]
  rfl

def Opens (t : Text) : Prop :=
  ∃ s c u, t = s ++ c :: u ∧ IsBlank s ∧ ¬ Parser.isSpace c ∧ c ≠ ']' ∧ c ≠ '}'

theorem opens_cons {c : Char} (hspace : ¬ Parser.isSpace c) (hbracket : c ≠ ']') (hbrace : c ≠ '}')
    (u : Text) : Opens (c :: u) :=
  ⟨[], c, u, rfl, fun _ h => absurd h List.not_mem_nil, hspace, hbracket, hbrace⟩

theorem Opens.append {t : Text} (h : Opens t) (u : Text) : Opens (t ++ u) := by
  obtain ⟨s, c, v, rfl, hs, hc⟩ := h
  exact ⟨s, c, v ++ u, by rw [List.append_assoc, List.cons_append], hs, hc⟩

theorem Opens.append_blank {s t : Text} (hs : IsBlank s) (h : Opens t) : Opens (s ++ t) := by
  obtain ⟨s', c, u, rfl, hs', hc⟩ := h
  refine ⟨s ++ s', c, u, (List.append_assoc s s' _).symm, ?_, hc⟩
  intro c hm
  rcases List.mem_append.1 hm with hm | hm
  · exact hs c hm
  · exact hs' c hm

theorem Written.opens {phrase : Phrase} {t : Text} (h : Written phrase t) : Opens t := by
  induction h with
  | null | true | false | string | emptyArray | array | emptyObject | object =>
      exact opens_cons (by decide) (by decide) (by decide) _
  | number literal =>
      obtain ⟨c, u, rfl, hc⟩ := literal.exists_cons
      refine opens_cons (not_isSpace_of_not_mem hc) ?_ ?_ u
      · rintro rfl
        exact hc (by decide)
      · rintro rfl
        exact hc (by decide)
  | item before _ _ ih => exact (ih.append _).append_blank before
  | lastItem _ ih => exact ih
  | moreItems _ _ ih _ => exact ih.append _
  | member before => exact (opens_cons (by decide) (by decide) (by decide) _).append_blank before
  | lastMember _ ih => exact ih
  | moreMembers _ _ ih _ => exact ih.append _

theorem Opens.items_eq {t : Text} (h : Opens t) (depth : Nat) :
    items (depth + 1) t = moreItems depth t := by
  obtain ⟨s, c, u, rfl, hs, hspace, hbracket, _⟩ := h
  rw [items, hs.skipSpace_append, skipSpace_cons hspace, hs.moreItems_append]
  split
  · rename_i he
    exact absurd (List.cons.inj he).1 hbracket
  · rfl

theorem Opens.members_eq {t : Text} (h : Opens t) (depth : Nat) :
    members (depth + 1) t = moreMembers depth t := by
  obtain ⟨s, c, u, rfl, hs, hspace, _, hbrace⟩ := h
  rw [members, hs.skipSpace_append, skipSpace_cons hspace, hs.moreMembers_append]
  split
  · rename_i he
    exact absurd (List.cons.inj he).1 hbrace
  · rfl

def afterMember (depth : Nat) (m : Option Text × Value) (rest : Text) :
    Option (List (Option Text × Value) × Text) :=
  match skipSpace rest with
  | '}' :: rest => some ([m], rest)
  | ',' :: rest => (moreMembers depth rest).bind fun r => some (m :: r.1, r.2)
  | _ => none

/-- What the reader of a phrase makes of its text, given depth enough: three calls for each
character and some more. -/
def Reads : Phrase → Text → Prop
  | .value v, t => ∀ depth rest, 3 * t.length + 1 ≤ depth → Ends rest →
      value depth (t ++ rest) = some (v, rest)
  | .item v, t => ∀ depth rest, 3 * t.length + 1 ≤ depth → Ends rest →
      ∃ s, IsBlank s ∧ value depth (t ++ rest) = some (v, s ++ rest)
  | .items vs, t => ∀ depth rest, 3 * t.length + 2 ≤ depth →
      moreItems depth (t ++ ']' :: rest) = some (vs, rest)
  | .member m, t => ∀ depth rest, 3 * t.length ≤ depth → Ends rest →
      moreMembers (depth + 1) (t ++ rest) = afterMember depth m rest
  | .members ms, t => ∀ depth rest, 3 * t.length + 1 ≤ depth →
      moreMembers depth (t ++ '}' :: rest) = some (ms, rest)

theorem Reads.of_item {v : Value} {t : Text} (h : Reads (.item v) t) : Reads (.items [v]) t := by
  intro depth rest hdepth
  obtain ⟨depth, rfl⟩ : ∃ d, depth = d + 1 := ⟨depth - 1, by omega⟩
  obtain ⟨s, hs, hread⟩ := h depth (']' :: rest) (by omega) (nextIn_cons (by decide) rest)
  rw [moreItems, hread]
  simp only [Option.bind_eq_bind, Option.bind_some, hs.skipSpace_append]
  rw [skipSpace_cons (by decide)]
  rfl

theorem Reads.items_cons {v : Value} {vs : List Value} {t u : Text} (h : Reads (.item v) t)
    (hu : Reads (.items vs) u) : Reads (.items (v :: vs)) (t ++ ',' :: u) := by
  intro depth rest hdepth
  rw [List.length_append, List.length_cons] at hdepth
  obtain ⟨depth, rfl⟩ : ∃ d, depth = d + 1 := ⟨depth - 1, by omega⟩
  obtain ⟨s, hs, hread⟩ :=
    h depth (',' :: (u ++ ']' :: rest)) (by omega) (nextIn_cons (by decide) _)
  rw [List.append_assoc, List.cons_append, moreItems, hread]
  simp only [Option.bind_eq_bind, Option.bind_some, hs.skipSpace_append]
  rw [skipSpace_cons (by decide)]
  change (moreItems depth (u ++ ']' :: rest)).bind (fun r => some (v :: r.1, r.2)) = _
  rw [hu depth rest (by omega)]
  rfl

theorem Reads.of_member {m : Option Text × Value} {t : Text} (h : Reads (.member m) t) :
    Reads (.members [m]) t := by
  intro depth rest hdepth
  obtain ⟨depth, rfl⟩ : ∃ d, depth = d + 1 := ⟨depth - 1, by omega⟩
  rw [h depth _ (by omega) (nextIn_cons (by decide) rest), afterMember,
    skipSpace_cons (by decide)]
  rfl

theorem Reads.members_cons {m : Option Text × Value} {ms : List (Option Text × Value)}
    {t u : Text} (h : Reads (.member m) t) (hu : Reads (.members ms) u) :
    Reads (.members (m :: ms)) (t ++ ',' :: u) := by
  intro depth rest hdepth
  rw [List.length_append, List.length_cons] at hdepth
  obtain ⟨depth, rfl⟩ : ∃ d, depth = d + 1 := ⟨depth - 1, by omega⟩
  rw [List.append_assoc, List.cons_append, h depth _ (by omega) (nextIn_cons (by decide) _),
    afterMember, skipSpace_cons (by decide)]
  change (moreMembers depth (u ++ '}' :: rest)).bind (fun r => some (m :: r.1, r.2)) = _
  rw [hu depth rest (by omega)]
  rfl

theorem Reads.member {ps : List Parser.Piece} {v : Value} {s name s' t : Text} (hs : IsBlank s)
    (hname : Spells name ps) (hs' : IsBlank s') (h : Reads (.item v) t) :
    Reads (.member (Parser.spelled? ps, v)) (s ++ '"' :: (name ++ '"' :: (s' ++ ':' :: t))) := by
  intro depth rest hdepth hrest
  simp only [List.length_append, List.length_cons] at hdepth
  obtain ⟨s₁, hs₁, hread⟩ := h depth rest (by omega) hrest
  rw [List.append_assoc, hs.moreMembers_append, moreMembers, List.cons_append,
    skipSpace_cons (by decide)]
  simp only [List.append_assoc, List.cons_append, hname.string?_append, Option.bind_eq_bind,
    Option.bind_some, hs'.skipSpace_append]
  rw [skipSpace_cons (by decide)]
  simp only [hread, Option.bind_some, hs₁.skipSpace_append, afterMember]
  rfl

theorem Reads.bracketed {vs : List Value} {t : Text}
    (h : ∀ depth rest, 3 * t.length + 2 ≤ depth →
      items (depth + 1) (t ++ ']' :: rest) = some (vs, rest)) :
    Reads (.value (.array vs)) ('[' :: (t ++ [']'])) := by
  intro depth rest hdepth _
  rw [List.length_cons, List.length_append, List.length_singleton] at hdepth
  obtain ⟨depth, rfl⟩ : ∃ d, depth = d + 2 := ⟨depth - 2, by omega⟩
  rw [List.cons_append, List.append_assoc, value_bracket, List.singleton_append,
    h depth rest (by omega)]
  rfl

theorem Reads.braced {ms : List (Option Text × Value)} {t : Text}
    (h : ∀ depth rest, 3 * t.length + 2 ≤ depth →
      members (depth + 1) (t ++ '}' :: rest) = some (ms, rest)) :
    Reads (.value (.object ms)) ('{' :: (t ++ ['}'])) := by
  intro depth rest hdepth _
  rw [List.length_cons, List.length_append, List.length_singleton] at hdepth
  obtain ⟨depth, rfl⟩ : ∃ d, depth = d + 2 := ⟨depth - 2, by omega⟩
  rw [List.cons_append, List.append_assoc, value_brace, List.singleton_append,
    h depth rest (by omega)]
  rfl

theorem Written.reads {phrase : Phrase} {t : Text} (h : Written phrase t) : Reads phrase t := by
  induction h with
  | null | true | false =>
      intro depth rest hdepth _
      obtain ⟨depth, rfl⟩ : ∃ d, depth = d + 1 := ⟨depth - 1, by omega⟩
      rfl
  | number literal =>
      intro depth rest hdepth hrest
      obtain ⟨depth, rfl⟩ : ∃ d, depth = d + 1 := ⟨depth - 1, by omega⟩
      have hread := literal.number?_append hrest
      obtain ⟨c, u, rfl, hc⟩ := literal.exists_cons
      rw [List.cons_append] at hread ⊢
      rw [value_of_number hc, hread]
      rfl
  | string inside =>
      intro depth rest hdepth _
      obtain ⟨depth, rfl⟩ : ∃ d, depth = d + 1 := ⟨depth - 1, by omega⟩
      rw [List.cons_append, List.append_assoc, value_quote, List.singleton_append,
        inside.string?_append]
      rfl
  | emptyArray blank =>
      refine .bracketed fun depth rest _ => ?_
      rw [blank.items_append]
  | array inside ih =>
      refine .bracketed fun depth rest hdepth => ?_
      rw [(inside.opens.append _).items_eq, ih depth rest hdepth]
  | emptyObject blank =>
      refine .braced fun depth rest _ => ?_
      rw [blank.members_append]
  | object inside ih =>
      refine .braced fun depth rest hdepth => ?_
      rw [(inside.opens.append _).members_eq, ih depth rest (by omega)]
  | item before value after ih =>
      intro depth rest hdepth hrest
      rw [List.length_append, List.length_append] at hdepth
      refine ⟨_, after, ?_⟩
      rw [List.append_assoc, List.append_assoc, before.value_append,
        ih depth _ (by omega) (after.append_ends hrest)]
  | lastItem _ ih => exact ih.of_item
  | moreItems _ _ ih ihrest => exact ih.items_cons ihrest
  | member before spelled after _ ih => exact ih.member before spelled after
  | lastMember _ ih => exact ih.of_member
  | moreMembers _ _ ih ihrest => exact ih.members_cons ihrest

end Values

/-- A document is read as the value that it writes, with any space around it. -/
theorem Written.parse {v : Value} {s t s' : Text} (h : Written (.value v) t) (before : IsBlank s)
    (after : IsBlank s') : Json.parse (s ++ (t ++ s')) = some v := by
  have hends : Ends s' := by
    have hnil : Ends [] := fun _ hc => by cases hc
    rw [← List.append_nil s']
    exact after.append_ends hnil
  have hread := h.reads (3 * (s ++ (t ++ s')).length + 3) s' (by
    rw [List.length_append, List.length_append]
    omega) hends
  rw [Json.parse, before.value_append, hread]
  simp only [Option.bind_eq_bind, Option.bind_some, after.skipSpace_eq]
  rfl

theorem IsDocument.parse {v : Value} {t : Text} (h : IsDocument v t) : Json.parse t = some v := by
  obtain ⟨before, written, after, hbefore, hwritten, hafter, rfl⟩ := h
  exact hwritten.parse hbefore hafter

end ClassLayout.Json
