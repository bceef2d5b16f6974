import ClassLayout.Location
import ClassLayout.Proofs.Path

namespace ClassLayout

open Location (slash)

namespace Text

variable {t : Text} {names : List Text}

theorem ofNat_ne_slash {n : Nat} (hl : 128 ≤ n) (hg : n < 256) : slash ≠ UInt8.ofNat n := by
  intro h
  have hn := congrArg UInt8.toNat h
  rw [UInt8.toNat_ofNat', Nat.mod_eq_of_lt hg] at hn
  have hslash : slash.toNat = 47 := rfl
  omega

theorem ne_slash_of_mem_utf8EncodeChar {c : Char} (hc : ¬ c.val.toNat ≤ 127) :
    ∀ b ∈ String.utf8EncodeChar c, slash ≠ b := by
  simp only [String.utf8EncodeChar, if_neg hc]
  -- lead and continuation bytes of a longer encoding are all above ASCII
  split_ifs
  all_goals
    simp only [List.forall_mem_cons, List.not_mem_nil, false_imp_iff, implies_true, and_true]
    and_intros
    all_goals exact ofNat_ne_slash (by omega) (by omega)

theorem slash_mem_utf8EncodeChar {c : Char} : slash ∈ String.utf8EncodeChar c ↔ c = '/' := by
  constructor
  · intro h
    by_cases hc : c.val.toNat ≤ 127
    · rw [String.utf8EncodeChar, if_pos hc, List.mem_singleton] at h
      have hn := congrArg UInt8.toNat h
      rw [UInt8.toNat_ofNat', Nat.mod_eq_of_lt (by omega)] at hn
      exact Char.ext (UInt32.toNat_inj.1 hn.symm)
    · exact absurd rfl (ne_slash_of_mem_utf8EncodeChar hc slash h)
  · rintro rfl
    decide

theorem slash_mem_encode : slash ∈ encode t ↔ '/' ∈ t := by
  simp only [encode_eq_flatMap, List.mem_flatMap, slash_mem_utf8EncodeChar, exists_eq_right]

theorem encode_eq_nil_iff : encode t = [] ↔ t = [] :=
  ⟨fun h => encode_injective h, fun h => h ▸ rfl⟩

theorem getLast?_encode : (encode t).getLast? = some slash ↔ t.getLast? = some '/' := by
  constructor
  · intro h
    cases hlast : t.getLast? with
    | none =>
        rw [List.getLast?_eq_none_iff.1 hlast] at h
        cases h
    | some c =>
        obtain ⟨before, rfl⟩ := List.getLast?_eq_some_iff.1 hlast
        have hne : String.utf8EncodeChar c ≠ [] := String.utf8EncodeChar_ne_nil
        rw [encode_append, encode_eq_flatMap [c], List.flatMap_singleton,
          List.getLast?_append_of_ne_nil _ hne] at h
        rw [slash_mem_utf8EncodeChar.1 (List.mem_of_getLast? h)]
  · intro h
    obtain ⟨before, rfl⟩ := List.getLast?_eq_some_iff.1 h
    rw [encode_append]
    exact List.getLast?_concat

theorem encode_lead (t : Text) : encode (lead '/' t) = lead slash (encode t) := by
  simp only [lead, encode_eq_nil_iff, getLast?_encode]
  split
  · rfl
  · rw [encode_append]
    rfl

theorem pieces_joined_encode (hne : names ≠ []) (h : ∀ name ∈ names, IsSegment name) :
    pieces slash (joined slash (names.map encode)) = names.map encode :=
  pieces_joined (List.map_eq_nil_iff.not.2 hne)
    (List.forall_mem_map.2 fun name hn => mt slash_mem_encode.1 (h name hn).2)

theorem head?_joined_encode (h : ∀ name ∈ names, IsSegment name) :
    ((joined slash (names.map encode)).head? == some slash) = false := by
  cases names with
  | nil => rfl
  | cons name rest =>
      have hname : IsSegment name := h name List.mem_cons_self
      obtain ⟨more, hmore⟩ : ∃ more, joined slash ((name :: rest).map encode) =
          encode name ++ more := by
        cases rest with
        | nil => exact ⟨[], (List.append_nil _).symm⟩
        | cons second others => exact ⟨_, rfl⟩
      have hencoded : encode name ≠ [] := encode_eq_nil_iff.not.2 hname.1
      rw [hmore, beq_eq_false_iff_ne, List.head?_append_of_ne_nil _ hencoded]
      intro hhead
      exact hname.2 (slash_mem_encode.1 (List.mem_of_mem_head? hhead))

end Text

namespace Location

variable {l : Location} {name : Text} {names names' : List Text}

theorem toBytes_ofBytes (path : List UInt8) : (ofBytes path).toBytes = path := by
  unfold ofBytes
  split
  · rename_i h
    exact Text.encode_of_decode? h
  · rfl

theorem toBytes_join (l : Location) (h : IsSegment name) :
    (l.join name).toBytes = Text.lead slash l.toBytes ++ Text.encode name := by
  cases l with
  | text path =>
      rw [join, toBytes, Path.join_eq path h, Text.encode_append, Text.encode_lead]
      rfl
  | bytes path undecodable =>
      have hne : path ≠ [] := by
        rintro rfl
        cases undecodable
      simp only [join, Path.isAbsolute_of_isSegment h, if_neg Bool.false_ne_true]
      by_cases hlast : path.getLast? = some slash
      · rw [if_pos hlast, toBytes_ofBytes, toBytes, Text.lead, if_pos (.inr hlast)]
      · rw [if_neg hlast, toBytes_ofBytes, toBytes, Text.lead, if_neg (not_or.2 ⟨hne, hlast⟩),
          List.append_assoc, List.singleton_append]

theorem toBytes_joinAll (l : Location) (hne : names ≠ []) (h : ∀ name ∈ names, IsSegment name) :
    (l.joinAll names).toBytes =
      Text.lead slash l.toBytes ++ Text.joined slash (names.map Text.encode) := by
  induction names generalizing l with
  | nil => exact absurd rfl hne
  | cons name rest ih =>
      have hname : IsSegment name := h name List.mem_cons_self
      by_cases hr : rest = []
      · subst hr
        exact toBytes_join l hname
      · have hencoded : Text.encode name ≠ [] := Text.encode_eq_nil_iff.not.2 hname.1
        have hslash : slash ∉ Text.encode name := mt Text.slash_mem_encode.1 hname.2
        calc (l.joinAll (name :: rest)).toBytes
            = Text.lead slash (l.join name).toBytes ++
                Text.joined slash (rest.map Text.encode) :=
              ih _ hr fun n hn => h n (List.mem_cons_of_mem _ hn)
          _ = Text.lead slash l.toBytes ++
                (Text.encode name ++ slash :: Text.joined slash (rest.map Text.encode)) := by
              rw [toBytes_join l hname, Text.lead_append hencoded hslash, List.append_assoc,
                List.append_assoc, List.singleton_append]
          _ = Text.lead slash l.toBytes ++ Text.joined slash ((name :: rest).map Text.encode) := by
              rw [List.map_cons, Text.joined_cons (List.map_eq_nil_iff.not.2 hr)]

theorem joinAll_injective (hne : names ≠ []) (hne' : names' ≠ [])
    (h : ∀ name ∈ names, IsSegment name) (h' : ∀ name ∈ names', IsSegment name)
    (he : l.joinAll names = l.joinAll names') : names = names' := by
  have hb := congrArg toBytes he
  rw [toBytes_joinAll l hne h, toBytes_joinAll l hne' h'] at hb
  have hp := congrArg (Text.pieces slash) (List.append_cancel_left hb)
  rw [Text.pieces_joined_encode hne h, Text.pieces_joined_encode hne' h'] at hp
  exact List.map_injective_iff.2 (fun _ _ => Text.encode_injective) hp

/-- The other path goes on behind this one. -/
def IsAbove (l l' : Location) : Prop := l.toBytes ++ [slash] <+: l'.toBytes

theorem prefix_of_isAbove (hne : names ≠ []) (hne' : names' ≠ [])
    (h : ∀ name ∈ names, IsSegment name) (h' : ∀ name ∈ names', IsSegment name)
    (habove : (l.joinAll names).IsAbove (l.joinAll names')) : names <+: names' := by
  obtain ⟨rest, hr⟩ := habove
  rw [toBytes_joinAll l hne h, toBytes_joinAll l hne' h', List.append_assoc, List.append_assoc,
    List.singleton_append] at hr
  have hp := congrArg (Text.pieces slash) (List.append_cancel_left hr)
  rw [Text.pieces_append_sep, Text.pieces_joined_encode hne h,
    Text.pieces_joined_encode hne' h'] at hp
  exact (List.prefix_map_iff_of_injective fun _ _ => Text.encode_injective).1 ⟨_, hp⟩

def point : UInt8 := 0x2E

/-- Go on from a place, given by the names on the way to it with the last one first. Above the root
there is only the root, but a relative path may leave the place where it starts. -/
def enter (absolute : Bool) (place : List (List UInt8)) (piece : List UInt8) :
    List (List UInt8) :=
  if piece = [] ∨ piece = [point] then place
  else if piece = [point, point] then
    match place with
    | [] => if absolute then [] else [piece]
    | last :: above => if last = [point, point] then piece :: place else above
  else piece :: place

def isAbsolute (l : Location) : Bool := l.toBytes.head? == some slash

/-- The place that a path names by itself: whether it is told from the root, and the names on the
way. -/
def resolve (l : Location) : Bool × List (List UInt8) :=
  (l.isAbsolute, ((Text.pieces slash l.toBytes).foldl (enter l.isAbsolute) []).reverse)

theorem enter_encode (absolute : Bool) (place : List (List UInt8)) (hseg : IsSegment name)
    (h : ¬ Path.IsDots name) :
    enter absolute place (Text.encode name) = Text.encode name :: place := by
  obtain ⟨hdot, hdots⟩ := not_or.1 h
  have hpoint : Text.encode name ≠ [point] := fun he => hdot (Text.encode_injective he)
  have hpoints : Text.encode name ≠ [point, point] := fun he => hdots (Text.encode_injective he)
  have hblank : ¬ (Text.encode name = [] ∨ Text.encode name = [point]) :=
    not_or.2 ⟨Text.encode_eq_nil_iff.not.2 hseg.1, hpoint⟩
  simp only [enter.eq_def, if_neg hblank, if_neg hpoints]

theorem foldl_enter (absolute : Bool) (place : List (List UInt8))
    (hseg : ∀ name ∈ names, IsSegment name) (h : ∀ name ∈ names, ¬ Path.IsDots name) :
    (names.map Text.encode).foldl (enter absolute) place =
      (names.map Text.encode).reverse ++ place := by
  induction names generalizing place with
  | nil => rfl
  | cons name rest ih =>
      rw [List.map_cons, List.foldl_cons, enter_encode absolute place (hseg name List.mem_cons_self)
        (h name List.mem_cons_self), ih _ (fun n hn => hseg n (List.mem_cons_of_mem _ hn))
        fun n hn => h n (List.mem_cons_of_mem _ hn), List.reverse_cons, List.append_assoc,
        List.singleton_append]

theorem foldl_enter_lead (absolute : Bool) (path more : List UInt8) :
    (Text.pieces slash (Text.lead slash path ++ more)).foldl (enter absolute) [] =
      (Text.pieces slash more).foldl (enter absolute)
        ((Text.pieces slash path).foldl (enter absolute) []) := by
  unfold Text.lead
  split
  · rename_i hends
    rcases hends with rfl | hlast
    · rfl
    · obtain ⟨before, rfl⟩ := List.getLast?_eq_some_iff.1 hlast
      -- the separator at the end of the path makes a blank piece of it
      rw [List.append_assoc, List.singleton_append, Text.pieces_append_sep,
        Text.pieces_append_sep, List.foldl_append, List.foldl_append]
      rfl
  · rw [List.append_assoc, List.singleton_append, Text.pieces_append_sep, List.foldl_append]

theorem isAbsolute_joinAll (l : Location) (h : ∀ name ∈ names, IsSegment name) :
    (l.joinAll names).isAbsolute = l.isAbsolute := by
  by_cases hne : names = []
  · subst hne
    rfl
  · rw [isAbsolute, toBytes_joinAll l hne h]
    exact Text.head?_lead_append (Text.head?_joined_encode h) l.toBytes

theorem resolve_joinAll (l : Location) (hseg : ∀ name ∈ names, IsSegment name)
    (h : ∀ name ∈ names, ¬ Path.IsDots name) :
    (l.joinAll names).resolve = (l.resolve.1, l.resolve.2 ++ names.map Text.encode) := by
  by_cases hne : names = []
  · subst hne
    rw [List.map_nil, List.append_nil]
    rfl
  · rw [resolve, isAbsolute_joinAll l hseg, toBytes_joinAll l hne hseg, foldl_enter_lead,
      Text.pieces_joined_encode hne hseg, foldl_enter _ _ hseg h, List.reverse_append,
      List.reverse_reverse]
    rfl

end Location

end ClassLayout
