namespace ClassLayout

abbrev Text := List Char

def inRanges (ranges : List (Nat × Nat)) (c : Char) : Bool :=
  ranges.any fun r => r.1 ≤ c.toNat && c.toNat ≤ r.2

namespace Text

def bytes : Text → Nat
  | [] => 0
  | c :: rest => c.utf8Size + bytes rest

def decimal (n : Nat) : Text := Nat.toDigits 10 n

@[simp] theorem bytes_nil : bytes [] = 0 := rfl

@[simp] theorem bytes_cons (c : Char) (t : Text) : bytes (c :: t) = c.utf8Size + bytes t := rfl

@[simp] theorem bytes_append (s t : Text) : bytes (s ++ t) = bytes s + bytes t := by
  induction s with
  | nil => simp
  | cons c s ih => simp [ih, Nat.add_assoc]

theorem bytes_replicate (c : Char) (n : Nat) : bytes (List.replicate n c) = n * c.utf8Size := by
  induction n with
  | zero => simp
  | succ n ih => rw [List.replicate_succ, bytes_cons, ih, Nat.succ_mul, Nat.add_comm]

theorem eq_nil_of_bytes_eq_zero {t : Text} (h : bytes t = 0) : t = [] := by
  cases t with
  | nil => rfl
  | cons c t =>
      have hpos := c.utf8Size_pos
      rw [bytes_cons] at h
      omega

variable {α : Type}

def joined (sep : α) : List (List α) → List α
  | [] => []
  | [t] => t
  | t :: more => t ++ sep :: joined sep more

theorem joined_cons {sep : α} {t : List α} {ts : List (List α)} (h : ts ≠ []) :
    joined sep (t :: ts) = t ++ sep :: joined sep ts := by
  cases ts with
  | nil => exact absurd rfl h
  | cons => rfl

theorem joined_append {sep : α} {ts us : List (List α)} (ht : ts ≠ []) (hu : us ≠ []) :
    joined sep (ts ++ us) = joined sep ts ++ sep :: joined sep us := by
  induction ts with
  | nil => exact absurd rfl ht
  | cons t ts ih =>
      by_cases hts : ts = []
      · subst hts
        exact joined_cons hu
      · rw [List.cons_append, joined_cons (List.append_ne_nil_of_left_ne_nil hts us), ih hts,
          joined_cons hts, List.append_assoc, List.cons_append]

theorem joined_ne_nil {sep : α} {ts : List (List α)} {t : List α} (ht : t ∈ ts) (hne : t ≠ []) :
    joined sep ts ≠ [] := by
  cases ts with
  | nil => cases ht
  | cons first rest =>
      by_cases hrest : rest = []
      · subst hrest
        rw [List.mem_singleton] at ht
        exact ht ▸ hne
      · rw [joined_cons hrest]
        exact List.append_ne_nil_of_right_ne_nil _ (List.cons_ne_nil _ _)

theorem mem_of_mem_joined {sep c : α} {ts : List (List α)} (h : c ∈ joined sep ts) :
    c = sep ∨ ∃ t ∈ ts, c ∈ t := by
  induction ts with
  | nil => cases h
  | cons t ts ih =>
      by_cases hts : ts = []
      · subst hts
        exact .inr ⟨t, List.mem_cons_self, h⟩
      · rw [joined_cons hts, List.mem_append, List.mem_cons] at h
        rcases h with h | h | h
        · exact .inr ⟨t, List.mem_cons_self, h⟩
        · exact .inl h
        · exact (ih h).imp_right fun ⟨u, hu, hc⟩ => ⟨u, List.mem_cons_of_mem t hu, hc⟩

variable [DecidableEq α]

def pieces (sep : α) : List α → List (List α)
  | [] => [[]]
  | c :: rest =>
      if c = sep then [] :: pieces sep rest
      else match pieces sep rest with
        | [] => [[c]]
        | piece :: more => (c :: piece) :: more

theorem pieces_ne_nil (sep : α) (t : List α) : pieces sep t ≠ [] := by
  cases t with
  | nil => simp [pieces]
  | cons c rest => simp only [pieces]; split <;> (try split) <;> simp

theorem not_mem_of_mem_pieces {sep : α} {t p : List α} (h : p ∈ pieces sep t) : sep ∉ p := by
  induction t generalizing p with
  | nil => simp_all [pieces]
  | cons c rest ih =>
      simp only [pieces] at h
      split at h
      · rcases List.mem_cons.1 h with rfl | h
        · simp
        · exact ih h
      · rename_i hc
        split at h
        · rcases List.mem_singleton.1 h with rfl
          simpa using Ne.symm hc
        · rename_i piece more hp
          rcases List.mem_cons.1 h with rfl | h
          · have := ih (p := piece) (by simp [hp])
            simp [this, Ne.symm hc]
          · exact ih (by simp [hp, h])

theorem pieces_of_not_mem {sep : α} {t : List α} (h : sep ∉ t) : pieces sep t = [t] := by
  induction t with
  | nil => rfl
  | cons c rest ih =>
      obtain ⟨hc, hr⟩ := not_or.1 (mt List.mem_cons.2 h)
      simp only [pieces, if_neg (Ne.symm hc), ih hr]

theorem pieces_replicate (sep : α) (n : Nat) :
    pieces sep (List.replicate n sep) = List.replicate (n + 1) [] := by
  induction n with
  | zero => rfl
  | succ n ih =>
      rw [List.replicate_succ, pieces, if_pos rfl, ih]
      rfl

theorem pieces_append_sep (sep : α) (t rest : List α) :
    pieces sep (t ++ sep :: rest) = pieces sep t ++ pieces sep rest := by
  induction t with
  | nil => simp [pieces]
  | cons c t ih =>
      simp only [List.cons_append, pieces, ih]
      by_cases hc : c = sep
      · rw [if_pos hc, if_pos hc, List.cons_append]
      · rw [if_neg hc, if_neg hc]
        cases hp : pieces sep t with
        | nil => exact absurd hp (pieces_ne_nil sep t)
        | cons piece more => rfl

theorem pieces_joined {sep : α} {ts : List (List α)} (hne : ts ≠ []) (h : ∀ t ∈ ts, sep ∉ t) :
    pieces sep (joined sep ts) = ts := by
  induction ts with
  | nil => exact absurd rfl hne
  | cons t ts ih =>
      have ht : sep ∉ t := h t List.mem_cons_self
      by_cases hts : ts = []
      · subst hts
        exact pieces_of_not_mem ht
      · rw [joined_cons hts, pieces_append_sep, pieces_of_not_mem ht, List.singleton_append,
          ih hts fun x hx => h x (List.mem_cons_of_mem _ hx)]

theorem joined_pieces (sep : α) (t : List α) : joined sep (pieces sep t) = t := by
  induction t with
  | nil => rfl
  | cons c rest ih =>
      have hne := pieces_ne_nil sep rest
      simp only [pieces]
      split
      · rename_i hc
        cases hp : pieces sep rest with
        | nil => exact absurd hp hne
        | cons piece more => rw [hp] at ih; simp [joined, ih, hc]
      · cases hp : pieces sep rest with
        | nil => exact absurd hp hne
        | cons piece more => rw [hp] at ih; cases more <;> simp_all [joined]

end Text

end ClassLayout
