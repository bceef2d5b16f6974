import ClassLayout.Config
import ClassLayout.Proofs.Json.Printer

namespace ClassLayout

namespace Json

theorem count?_decimal {n : Nat} (h : n < UInt64.size) :
    Value.count? (.number (Text.decimal n)) = some n := by
  have hall : (Text.decimal n).all Char.isDigit := List.all_eq_true.2 (isDigits_decimal n).2
  have hvalue : (Text.decimal n).foldl (fun n c => 10 * n + (c.toNat - '0'.toNat)) 0 = n :=
    Nat.ofDigitChars_ten_toDigits
  simp only [Value.count?, hall, hvalue, if_pos, Value.countLimit, h]

namespace Record

theorem filter_member {r : Record} {f : Text × Scalar} (hnodup : (r.map Prod.fst).Nodup)
    (hf : f ∈ r) : (r.map member).filter (fun m => m.1 = some f.1) = [member f] := by
  induction r with
  | nil => cases hf
  | cons g r ih =>
      obtain ⟨hg, hr⟩ := List.nodup_cons.1 hnodup
      rcases List.mem_cons.1 hf with rfl | hmem
      · have hnone : (r.map member).filter (fun m => m.1 = some f.1) = [] := by
          simp only [List.filter_eq_nil_iff, List.forall_mem_map, member, Option.some.injEq,
            decide_eq_true_eq]
          intro g hm he
          exact hg (he ▸ List.mem_map_of_mem hm)
        rw [List.map_cons, List.filter_cons_of_pos (by simp [member]), hnone]
      · have hne : g.1 ≠ f.1 := fun he => hg (he ▸ List.mem_map_of_mem hmem)
        rw [List.map_cons, List.filter_cons_of_neg (by simpa [member] using hne), ih hr hmem]

theorem member?_of_mem {r : Record} {f : Text × Scalar} (hnodup : (r.map Prod.fst).Nodup)
    (hf : f ∈ r) : Value.member? (r.map member) f.1 = some (some f.2.toValue) := by
  rw [Value.member?, filter_member hnodup hf]
  rfl

theorem toValue_eq (r : Record) : r.toValue = .object (r.map member) := rfl

theorem fields?_toValue {r : Record} (hnodup : (r.map Prod.fst).Nodup) :
    r.toValue.fields? (r.map Prod.fst) = some (r.map fun f => some f.2.toValue) := by
  have hnamed : (r.map member).all (·.1.isSome) := by
    simp [member]
  have hread : ∀ part : Record, part ⊆ r →
      (part.map Prod.fst).mapM (Value.member? (r.map member)) =
        some (part.map fun f => some f.2.toValue) := by
    intro part hpart
    induction part with
    | nil => rfl
    | cons f part ih =>
        rw [List.map_cons, List.mapM_cons, member?_of_mem hnodup (hpart List.mem_cons_self),
          ih fun g hg => hpart (List.mem_cons_of_mem _ hg)]
        rfl
  rw [toValue_eq, Value.fields?, if_pos hnamed]
  exact hread r fun _ h => h

theorem fields?_zip {names : List Text} {values : List Scalar} (hnodup : names.Nodup)
    (hlength : names.length = values.length) :
    (toValue (names.zip values)).fields? names = some (values.map fun v => some v.toValue) := by
  have hfst : (names.zip values).map Prod.fst = names := List.map_fst_zip (Nat.le_of_eq hlength)
  have hsnd : (names.zip values).map Prod.snd = values :=
    List.map_snd_zip (Nat.le_of_eq hlength.symm)
  have hfields := fields?_toValue (r := names.zip values) (by rwa [hfst])
  rw [hfst] at hfields
  calc (toValue (names.zip values)).fields? names
      = some ((names.zip values).map fun f => some f.2.toValue) := hfields
    _ = some (((names.zip values).map Prod.snd).map fun v => some v.toValue) := by
        rw [List.map_map]
        rfl
    _ = some (values.map fun v => some v.toValue) := by rw [hsnd]

end Record

end Json

theorem CaseSensitivity.ofJson?_name (c : CaseSensitivity) :
    ofJson? (.string (some c.name)) = some c := by
  cases c with
  | unknown => rfl
  | sensitive => rfl
  | insensitive => rfl

namespace Config

theorem exists_toRecord? (dir : Text) {s : Settings} (hbytes : s.maxComponentBytes < UInt64.size) :
    ∃ r : Json.Record, toRecord? ⟨.text dir, s⟩ = some r ∧
      ofJson? r.toValue = some ⟨.text dir, s⟩ := by
  refine ⟨_, rfl, ?_⟩
  rw [ofJson?, Json.Record.fields?_zip (by decide) rfl]
  obtain ⟨extension, maxBytes, case, escape⟩ := s
  have hcount := Json.count?_decimal hbytes
  have hcase := case.ofJson?_name
  cases escape with
  | none =>
      simp only [List.map_cons, List.map_nil, Option.bind_eq_bind, Option.bind_some, fieldOr,
        Json.Scalar.toValue, Json.Value.text?, hcount, hcase]
      rfl
  | some b =>
      simp only [List.map_cons, List.map_nil, Option.bind_eq_bind, Option.bind_some, fieldOr,
        Json.Scalar.toValue, Json.Value.text?, hcount, hcase]
      rfl

end Config

theorem Stats.ofJson?_toRecord {s : Stats} (hp : s.packages < UInt64.size)
    (hc : s.classes < UInt64.size) (hg : s.virtualGroups < UInt64.size)
    (hd : s.disambiguated < UInt64.size) : ofJson? s.toRecord.toValue = some s := by
  rw [ofJson?, toRecord, Json.Record.fields?_zip (by decide) rfl]
  simp only [List.map_cons, List.map_nil, Option.bind_eq_bind, Option.bind_some,
    Json.Scalar.toValue, Json.count?_decimal hp, Json.count?_decimal hc, Json.count?_decimal hg,
    Json.count?_decimal hd]
  rfl

/-- The text that is written for settings is read as these settings, whatever stands in the name of
the output directory and in the extension, and the text of any counts as these counts. -/
theorem Config.parse?_print? :
    (∀ (c : Config) (dir : Text), c.outputDir = .text dir →
      c.settings.maxComponentBytes < UInt64.size →
      ∃ t, c.print? = some t ∧ Text.decode? (Text.encode t) = some t ∧ parse? t = some c) ∧
    ∀ s : Stats, s.packages < UInt64.size → s.classes < UInt64.size →
      s.virtualGroups < UInt64.size → s.disambiguated < UInt64.size →
      Stats.parse? s.print = some s := by
  constructor
  · intro c dir hdir hbytes
    obtain ⟨_, settings⟩ := c
    subst hdir
    obtain ⟨r, hrecord, hread⟩ := exists_toRecord? dir hbytes
    refine ⟨r.pretty, ?_, Text.decode?_encode _, ?_⟩
    · rw [print?, hrecord]
      rfl
    · rw [parse?, r.parse_pretty, Option.bind_some, hread]
  · intro s hp hc hg hd
    rw [Stats.parse?, Stats.print, s.toRecord.parse_compact, Option.bind_some,
      Stats.ofJson?_toRecord hp hc hg hd]

theorem Config.parse?_print?_escaped :
    ∃ c : Config,
      c.outputDir = .text ['"', '\\', '\n', '\x01', 'é', '😀', '/'] ∧
      c.settings = ⟨['.', '\t', '\x7f'], UInt64.size - 1, .insensitive, some true⟩ ∧
      c.settings.maxComponentBytes < UInt64.size ∧
      (∃ t, c.print? = some t ∧ Text.decode? (Text.encode t) = some t ∧ parse? t = some c) ∧
      Stats.parse? (Stats.print ⟨0, UInt64.size - 1, 10, 1⟩) =
        some ⟨0, UInt64.size - 1, 10, 1⟩ := by
  have hbytes : UInt64.size - 1 < UInt64.size := by decide
  exact ⟨⟨_, _⟩, rfl, rfl, hbytes, parse?_print?.1 _ _ rfl hbytes,
    parse?_print?.2 _ (by decide) hbytes (by decide) (by decide)⟩

end ClassLayout
