import ClassLayout.Proofs.Volume.Document

namespace ClassLayout.Config

inductive Field where
  | outputDir
  | fileExtension
  | maxComponentBytes
  | caseSensitivity
  | escapeReservedNames
  deriving DecidableEq

namespace Field

def all : List Field :=
  [outputDir, fileExtension, maxComponentBytes, caseSensitivity, escapeReservedNames]

def name : Field → Text
  | outputDir => "output_dir".toList
  | fileExtension => "file_extension".toList
  | maxComponentBytes => "max_component_bytes".toList
  | caseSensitivity => "case_sensitivity".toList
  | escapeReservedNames => "escape_reserved_names".toList

end Field

/-- What is said of a field, if anything is. Nothing need be said of a setting that is standard. -/
inductive Says (c : Config) : Field → Option Json.Value → Prop
  | outputDir {dir : Text} (text : c.outputDir = .text dir) :
      Says c .outputDir (some (.string (some dir)))
  | fileExtension : Says c .fileExtension (some (.string (some c.settings.fileExtension)))
  | standardExtension (standard : c.settings.fileExtension = ".smali".toList) :
      Says c .fileExtension none
  | maxComponentBytes :
      Says c .maxComponentBytes (some (.number (Text.decimal c.settings.maxComponentBytes)))
  | standardBytes (standard : c.settings.maxComponentBytes = 245) : Says c .maxComponentBytes none
  | caseSensitivity :
      Says c .caseSensitivity (some (.string (some c.settings.caseSensitivity.name)))
  | caseBeforeNull :
      Says c .caseSensitivity (some (.object [(some c.settings.caseSensitivity.name, .null)]))
  | standardCase (standard : c.settings.caseSensitivity = .unknown) :
      Says c .caseSensitivity none
  | escapes {b : Bool} (forced : c.settings.escapeReservedNames = some b) :
      Says c .escapeReservedNames (some (.bool b))
  | escapesNull (unset : c.settings.escapeReservedNames = none) :
      Says c .escapeReservedNames (some .null)
  | standardEscapes (unset : c.settings.escapeReservedNames = none) :
      Says c .escapeReservedNames none

/-- Values that tell settings: objects with a member for each field that something is said of, in
any order and among any others, and arrays of what is said, as far as it goes. -/
inductive Tells (c : Config) : Json.Value → Prop
  | object {said : Field → Option Json.Value} {members : List (Option Text × Json.Value)}
      (meant : ∀ f, c.Says f (said f)) (named : ∀ m ∈ members, m.1 ≠ none)
      (told : ∀ f : Field, (members.filter fun m => m.1 = some f.name).map Prod.snd =
        (said f).toList) :
      Tells c (.object members)
  | array {said : Field → Option Json.Value} {items : List Json.Value}
      (meant : ∀ f, c.Says f (said f))
      (told : items.map some ++ List.replicate (Field.all.length - items.length) none =
        Field.all.map said) :
      Tells c (.array items)

section Fields

variable {members : List (Option Text × Json.Value)} {said : Field → Option Json.Value}

theorem member?_eq_some {name : Text} {v? : Option Json.Value}
    (h : (members.filter fun m => m.1 = some name).map Prod.snd = v?.toList) :
    Json.Value.member? members name = some v? := by
  unfold Json.Value.member?
  cases v? with
  | none => rw [List.map_eq_nil_iff.1 h]
  | some v =>
      obtain ⟨m, hm, rfl⟩ := List.map_eq_singleton_iff.1 h
      rw [hm]

theorem fields?_object (named : ∀ m ∈ members, m.1 ≠ none)
    (told : ∀ f : Field, (members.filter fun m => m.1 = some f.name).map Prod.snd =
      (said f).toList) :
    (Json.Value.object members).fields? fieldNames = some (Field.all.map said) := by
  have hnamed : members.all (·.1.isSome) :=
    List.all_eq_true.2 fun m hm => Option.isSome_iff_ne_none.2 (named m hm)
  have hmember : Json.Value.member? members ∘ Field.name = fun f => some (said f) :=
    funext fun f => member?_eq_some (told f)
  rw [Json.Value.fields?, if_pos hnamed, show fieldNames = Field.all.map Field.name from rfl,
    List.mapM_map, hmember]
  exact List.mapM_pure

theorem fields?_array {items : List Json.Value}
    (told : items.map some ++ List.replicate (Field.all.length - items.length) none =
      Field.all.map said) :
    (Json.Value.array items).fields? fieldNames = some (Field.all.map said) := by
  have hlength := congrArg List.length told
  rw [List.length_append, List.length_map, List.length_replicate, List.length_map] at hlength
  have hfits : items.length ≤ fieldNames.length := show items.length ≤ Field.all.length by omega
  rw [Json.Value.fields?, if_pos hfits]
  exact congrArg some told

end Fields

section Readings

variable {c : Config} {v? : Option Json.Value}

theorem Says.outputDir_eq (h : c.Says .outputDir v?) :
    ∃ dir, c.outputDir = .text dir ∧ v? = some (.string (some dir)) := by
  cases h with
  | outputDir text => exact ⟨_, text, rfl⟩

theorem Says.read_fileExtension (h : c.Says .fileExtension v?) :
    fieldOr ({} : Settings).fileExtension Json.Value.text? v? = some c.settings.fileExtension := by
  cases h with
  | fileExtension => rfl
  | standardExtension standard => rw [standard]; rfl

theorem Says.read_maxComponentBytes (h : c.Says .maxComponentBytes v?)
    (hbytes : c.settings.maxComponentBytes < UInt64.size) :
    fieldOr ({} : Settings).maxComponentBytes Json.Value.count? v? =
      some c.settings.maxComponentBytes := by
  cases h with
  | maxComponentBytes => exact Json.count?_decimal hbytes
  | standardBytes standard => rw [standard]; rfl

theorem Says.read_caseSensitivity (h : c.Says .caseSensitivity v?) :
    fieldOr ({} : Settings).caseSensitivity CaseSensitivity.ofJson? v? =
      some c.settings.caseSensitivity := by
  cases h with
  | caseSensitivity => exact CaseSensitivity.ofJson?_name _
  | caseBeforeNull => exact CaseSensitivity.ofJson?_name _
  | standardCase standard => rw [standard]; rfl

theorem Says.read_escapeReservedNames (h : c.Says .escapeReservedNames v?) :
    fieldOr ({} : Settings).escapeReservedNames (Json.Value.optional? Json.Value.bool?) v? =
      some c.settings.escapeReservedNames := by
  cases h with
  | escapes forced => rw [forced]; rfl
  | escapesNull unset => rw [unset]; rfl
  | standardEscapes unset => rw [unset]; rfl

theorem ofJson?_of_fields {said : Field → Option Json.Value} {v : Json.Value}
    (hfields : v.fields? fieldNames = some (Field.all.map said)) (meant : ∀ f, c.Says f (said f))
    (hbytes : c.settings.maxComponentBytes < UInt64.size) : ofJson? v = some c := by
  obtain ⟨dir, hdir, hsaid⟩ := (meant .outputDir).outputDir_eq
  rw [ofJson?, hfields]
  simp only [Field.all, List.map_cons, List.map_nil, Option.bind_eq_bind, Option.bind_some, hsaid,
    Json.Value.text?, (meant .fileExtension).read_fileExtension,
    (meant .maxComponentBytes).read_maxComponentBytes hbytes,
    (meant .caseSensitivity).read_caseSensitivity,
    (meant .escapeReservedNames).read_escapeReservedNames]
  rw [← hdir]
  rfl

theorem Tells.ofJson? {v : Json.Value} (h : c.Tells v)
    (hbytes : c.settings.maxComponentBytes < UInt64.size) : Config.ofJson? v = some c := by
  cases h with
  | object meant named told => exact ofJson?_of_fields (fields?_object named told) meant hbytes
  | array meant told => exact ofJson?_of_fields (fields?_array told) meant hbytes

end Readings

section Refusals

variable {members : List (Option Text × Json.Value)}

theorem mapM_eq_none {α β : Type} {g : α → Option β} {l : List α} {a : α} (ha : a ∈ l)
    (h : g a = none) : l.mapM g = none := by
  induction l with
  | nil => cases ha
  | cons b l ih =>
      rw [List.mapM_cons]
      rcases List.mem_cons.1 ha with rfl | ha
      · rw [h]
        rfl
      · rw [ih ha]
        cases g b with
        | none => rfl
        | some y => rfl

theorem member?_of_repeated {name : Text}
    (h : 2 ≤ (members.map Prod.fst).count (some name)) :
    Json.Value.member? members name = none := by
  have hcount : (members.filter fun m => m.1 = some name).length =
      (members.map Prod.fst).count (some name) := by
    rw [List.count_eq_countP, List.countP_map, List.countP_eq_length_filter]
    refine congrArg List.length (List.filter_congr fun m _ => ?_)
    rw [Bool.eq_iff_iff, decide_eq_true_iff, Function.comp_apply, beq_iff_eq]
  rw [← hcount] at h
  unfold Json.Value.member?
  split
  · rename_i hnone
    rw [hnone] at h
    exact absurd h (by decide)
  · rename_i m hone
    rw [hone] at h
    exact absurd h (Nat.not_succ_le_self 1)
  · rfl

theorem fields?_of_repeated {f : Field} (h : 2 ≤ (members.map Prod.fst).count (some f.name)) :
    (Json.Value.object members).fields? fieldNames = none := by
  have hf : f.name ∈ fieldNames := by cases f <;> decide
  rw [Json.Value.fields?]
  split
  · exact mapM_eq_none hf (member?_of_repeated h)
  · rfl

theorem exists_fields?_of_ofJson? {v : Json.Value} {c : Config} (h : ofJson? v = some c) :
    ∃ dir rest, v.fields? fieldNames = some (some dir :: rest) := by
  unfold ofJson? at h
  cases hfields : v.fields? fieldNames with
  | none =>
      rw [hfields] at h
      cases h
  | some values =>
      rw [hfields] at h
      simp only [Option.bind_eq_bind, Option.bind_some] at h
      split at h
      · exact ⟨_, _, rfl⟩
      · cases h

theorem ofJson?_of_missing (h : some Field.outputDir.name ∉ members.map Prod.fst) :
    ofJson? (.object members) = none := by
  have hmember : Json.Value.member? members Field.outputDir.name = some none := by
    have hnone : (members.filter fun m => m.1 = some Field.outputDir.name) = [] :=
      List.filter_eq_nil_iff.2 fun m hm he => h (List.mem_map.2 ⟨m, hm, by simpa using he⟩)
    exact member?_eq_some (congrArg (List.map Prod.snd) hnone)
  rw [Option.eq_none_iff_forall_ne_some]
  intro c hc
  obtain ⟨dir, rest, hfields⟩ := exists_fields?_of_ofJson? hc
  rw [Json.Value.fields?] at hfields
  split at hfields
  · rw [show fieldNames = Field.outputDir.name :: fieldNames.tail from rfl, List.mapM_cons,
      hmember, Option.bind_eq_bind, Option.bind_some, Option.bind_eq_bind,
      Option.bind_eq_some_iff] at hfields
    obtain ⟨values, _, hvalues⟩ := hfields
    cases hvalues
  · cases hfields

end Refusals

/-- A file that tells settings is loaded as these settings. One whose members leave out the
directory or have a field twice is refused as a document. -/
theorem load_told (v : Volume) (path t : Text) (hread : v.read path = .ok (Text.encode t)) :
    (∀ (c : Config) (value : Json.Value), c.settings.maxComponentBytes < UInt64.size →
      c.Tells value → Json.IsDocument value t → v.load path = .ok c) ∧
    ∀ members : List (Option Text × Json.Value), Json.IsDocument (.object members) t →
      (some Field.outputDir.name ∉ members.map Prod.fst ∨
        ∃ f : Field, 2 ≤ (members.map Prod.fst).count (some f.name)) →
      v.load path = .error .json := by
  rw [Volume.load_of_read hread]
  constructor
  · intro c value hbytes htells hdocument
    rw [parse?, hdocument.parse, Option.bind_some, htells.ofJson? hbytes]
  · intro members hdocument hrefused
    have hnone : ofJson? (.object members) = none := by
      rcases hrefused with hmissing | ⟨f, hrepeated⟩
      · exact ofJson?_of_missing hmissing
      · rw [ofJson?, fields?_of_repeated hrepeated]
        rfl
    rw [parse?, hdocument.parse, Option.bind_some, hnone]

section Spellings

open ClassLayout.Json (IsBlank IsDocument Phrase Spells Value Written isBlank_nil)

theorem spells_self (t : Text) (h : t.all fun c => c ≠ '"' ∧ c ≠ '\\' ∧ ¬ c.toNat < 0x20) :
    Spells t (t.map .char) := by
  induction t with
  | nil => exact .nil
  | cons c t ih =>
      rw [List.all_cons, Bool.and_eq_true, decide_eq_true_iff] at h
      obtain ⟨⟨hquote, hbackslash, hcontrol⟩, ht⟩ := h
      exact .plain hquote hbackslash hcontrol (ih ht)

theorem written_member {name : Text} {ps : List Json.Parser.Piece} {v : Value} {s t : Text}
    (spelled : Spells name ps) (before : IsBlank s) (value : Written (.value v) t) :
    Written (.member (Json.Parser.spelled? ps, v)) (s ++ '"' :: (name ++ '"' :: ':' :: t)) := by
  have hitem := Written.item isBlank_nil value isBlank_nil
  rw [List.nil_append, List.append_nil] at hitem
  exact .member before spelled isBlank_nil hitem

def oddText : Text :=
  "\x7b\"x\":[\"\\ud800\",\x7b\"x\":10\x7d],".toList ++
    "\"case_sensitivity\":\x7b\"insensitive\":null\x7d,".toList ++
    "\"x\":null, \"\\u006futput_dir\":\"\\/é\"\x7d\n".toList

def oddMembers : List (Option Text × Value) :=
  [(some ['x'], .array [.string none, .object [(some ['x'], .number (Text.decimal 10))]]),
    (some Field.caseSensitivity.name, .object [(some "insensitive".toList, .null)]),
    (some ['x'], .null), (some Field.outputDir.name, .string (some ['/', 'é']))]

def oddlySaid : Field → Option Value
  | .outputDir => some (.string (some ['/', 'é']))
  | .caseSensitivity => some (.object [(some "insensitive".toList, .null)])
  | _ => none

theorem spells_outputDir :
    Spells "\\u006futput_dir".toList (.unit 0x6f :: "utput_dir".toList.map .char) :=
  .unit rfl (spells_self _ (by decide))

theorem isDocument_oddText : IsDocument (.object oddMembers) oddText := by
  have hx : Spells ['x'] [.char 'x'] := spells_self ['x'] (by decide)
  have hhalf : Spells "\\ud800".toList [.unit 0xd800] := .unit rfl .nil
  have hdir : Spells "\\/é".toList [.char '/', .char 'é'] :=
    .short (by decide) (spells_self ['é'] (by decide))
  have hmore : Written (.value _) _ := .array (.moreItems
    (.item isBlank_nil (.string hhalf) isBlank_nil) (.lastItem (.item isBlank_nil
      (.object (.lastMember (written_member hx isBlank_nil (.number (Json.isNumber_decimal 10)))))
      isBlank_nil)))
  have hcase : Written (.value _) _ := .object (.lastMember
    (written_member (spells_self "insensitive".toList (by decide)) isBlank_nil .null))
  have hobject : Written (.value _) _ := .object (.moreMembers
    (written_member hx isBlank_nil hmore) (.moreMembers
      (written_member (spells_self "case_sensitivity".toList (by decide)) isBlank_nil hcase)
      (.moreMembers (written_member hx isBlank_nil .null)
        (.lastMember (written_member (s := [' ']) spells_outputDir (by decide) (.string hdir))))))
  exact ⟨[], _, ['\n'], isBlank_nil, hobject, by decide, by decide +kernel⟩

theorem tells_oddMembers :
    Tells ⟨.text ['/', 'é'], { caseSensitivity := .insensitive }⟩ (.object oddMembers) := by
  refine @Tells.object _ oddlySaid _ (fun f => ?_) (by decide) fun f => by cases f <;> rfl
  cases f with
  | outputDir => exact .outputDir rfl
  | fileExtension => exact .standardExtension rfl
  | maxComponentBytes => exact .standardBytes rfl
  | caseSensitivity => exact .caseBeforeNull
  | escapeReservedNames => exact .standardEscapes rfl

theorem isDocument_repeated :
    IsDocument (.object [(some Field.outputDir.name, .string (some ['x'])),
        (some Field.outputDir.name, .null)])
      "\x7b\"output_dir\":\"x\",\"\\u006futput_dir\":null\x7d".toList := by
  have hx : Spells ['x'] [.char 'x'] := spells_self ['x'] (by decide)
  have hobject : Written (.value _) _ := .object (.moreMembers
    (written_member (spells_self Field.outputDir.name (by decide)) isBlank_nil (.string hx))
    (.lastMember (written_member spells_outputDir isBlank_nil .null)))
  exact ⟨[], _, [], isBlank_nil, hobject, isBlank_nil, by decide +kernel⟩

theorem load_told_odd_spellings :
    (∃ (v : Volume) (path : Text) (c : Config) (value : Value),
      v.read path = .ok (Text.encode oddText) ∧ c.settings.maxComponentBytes < UInt64.size ∧
      c.Tells value ∧ IsDocument value oddText ∧ v.load path = .ok c) ∧
    ∃ (v : Volume) (path t : Text) (members : List (Option Text × Value)),
      v.read path = .ok (Text.encode t) ∧ IsDocument (.object members) t ∧
      2 ≤ (members.map Prod.fst).count (some Field.outputDir.name) ∧
      v.load path = .error .json := by
  have hread : ∀ content, (⟨⟨[(Place.root.child ['f'], .file content)]⟩, .root⟩ : Volume).read ['f']
      = .ok content := fun _ => rfl
  have hbytes : ({} : Settings).maxComponentBytes < UInt64.size := by decide
  refine ⟨⟨_, ['f'], _, _, hread _, hbytes, tells_oddMembers, isDocument_oddText, ?_⟩,
    ⟨_, ['f'], _, _, hread _, isDocument_repeated, by decide, ?_⟩⟩
  · exact (load_told _ _ _ (hread _)).1 _ _ hbytes tells_oddMembers isDocument_oddText
  · exact (load_told _ _ _ (hread _)).2 _ isDocument_repeated (.inr ⟨.outputDir, by decide⟩)

end Spellings

end ClassLayout.Config
