import ScopeGateway.Text.Split

/-!
Pieces between separators, the cut at the first separator, and stretches of a list.
-/
namespace ScopeGateway.Text

variable {α : Type} {p : α → Bool}

theorem splitOn_eq_splitOnP (p : α → Bool) (l : List α) : splitOn p l = l.splitOnP p := by
  induction l with
  | nil => rfl
  | cons a rest ih => rw [splitOn, List.splitOnP_cons_eq_if_modifyHead, ih]

theorem splitOn_append_cons (l r : List α) {a : α} (ha : p a) :
    splitOn p (l ++ a :: r) = splitOn p l ++ splitOn p r := by
  simp only [splitOn_eq_splitOnP]
  exact List.splitOnP_append_cons l r ha

theorem splitOn_eq_singleton {l : List α} (h : ∀ a ∈ l, p a = false) : splitOn p l = [l] := by
  rw [splitOn_eq_splitOnP]
  exact List.splitOnP_eq_singleton h

/-- Pieces without a separator are what a split of the joined pieces gives back. -/
theorem splitOn_intercalate [BEq α] [LawfulBEq α] {a : α} {pieces : List (List α)}
    (h : ∀ l ∈ pieces, a ∉ l) (hne : pieces ≠ []) :
    splitOn (· == a) ([a].intercalate pieces) = pieces := by
  rw [splitOn_eq_splitOnP, ← List.splitOn_eq_splitOnP]
  exact List.splitOn_intercalate a h hne

/-- An element that separates nothing lengthens the first piece. -/
theorem exists_splitOn_cons {a : α} (ha : p a = false) (l : List α) :
    ∃ v vs, splitOn p l = v :: vs ∧ splitOn p (a :: l) = (a :: v) :: vs := by
  cases hs : splitOn p l with
  | nil => exact absurd hs (splitOn_ne_nil p l)
  | cons v vs => exact ⟨v, vs, rfl, by simp [splitOn, ha, hs]⟩

theorem not_of_mem_splitOn {l w : List α} (hw : w ∈ splitOn p l) : ∀ a ∈ w, p a = false := by
  induction l generalizing w with
  | nil => simp_all [splitOn]
  | cons b rest ih =>
    cases hb : p b with
    | true =>
      simp only [splitOn, hb, if_true, List.mem_cons] at hw
      obtain rfl | hw := hw
      · simp
      · exact ih hw
    | false =>
      obtain ⟨v, vs, hs, hbs⟩ := exists_splitOn_cons hb rest
      rw [hs] at ih
      rw [hbs] at hw
      obtain rfl | hw := List.mem_cons.mp hw
      · have hv := ih List.mem_cons_self
        simpa [hb] using hv
      · exact ih (List.mem_cons_of_mem _ hw)

theorem prefix_of_splitOn_eq_cons {l v : List α} {vs : List (List α)}
    (h : splitOn p l = v :: vs) : v <+: l := by
  induction l generalizing v vs with
  | nil => simp_all [splitOn]
  | cons b rest ih =>
    cases hb : p b with
    | true => simp_all [splitOn]
    | false =>
      obtain ⟨u, us, hs, hbs⟩ := exists_splitOn_cons hb rest
      obtain ⟨rfl, rfl⟩ := List.cons.inj (hbs.symm.trans h)
      exact List.cons_prefix_cons.mpr ⟨rfl, ih hs⟩

theorem infix_of_mem_splitOn {l w : List α} (hw : w ∈ splitOn p l) : w <:+: l := by
  induction l with
  | nil => simp_all [splitOn]
  | cons b rest ih =>
    cases hb : p b with
    | true =>
      simp only [splitOn, hb, if_true, List.mem_cons] at hw
      obtain rfl | hw := hw
      · exact List.nil_infix
      · exact List.infix_cons (ih hw)
    | false =>
      obtain ⟨v, vs, hs, hbs⟩ := exists_splitOn_cons hb rest
      rw [hs] at ih
      rw [hbs] at hw
      -- a longer first piece is no piece of the rest, but it starts the whole list
      obtain rfl | hw := List.mem_cons.mp hw
      · exact (prefix_of_splitOn_eq_cons hbs).isInfix
      · exact List.infix_cons (ih (List.mem_cons_of_mem _ hw))

theorem head?_of_splitOn_eq_cons {l v : List α} {vs : List (List α)}
    (h : splitOn p l = v :: vs) : v.head? = l.head?.filter (!p ·) := by
  cases l with
  | nil => simp_all [splitOn]
  | cons a rest =>
    cases ha : p a with
    | true => simp_all [splitOn, Option.filter]
    | false =>
      obtain ⟨u, us, -, hcons⟩ := exists_splitOn_cons ha rest
      obtain ⟨rfl, rfl⟩ := List.cons.inj (hcons.symm.trans h)
      simp [Option.filter, ha]

/-- A piece behind the first begins with an element where that stands behind a separator. -/
theorem exists_mem_tail_splitOn_iff [BEq α] [LawfulBEq α] {a b : α} (hb : b ≠ a) (l : List α) :
    (∃ w ∈ (splitOn (· == a) l).tail, w.head? = some b) ↔ [a, b] <:+: l := by
  induction l with
  | nil => simp [splitOn]
  | cons c rest ih =>
    cases hs : splitOn (· == a) rest with
    | nil => exact absurd hs (splitOn_ne_nil _ rest)
    | cons v vs =>
      have hv : v.head? = some b ↔ rest.head? = some b := by
        rw [head?_of_splitOn_eq_cons hs, Option.filter_eq_some_iff]
        simp [hb]
      rw [hs, List.tail_cons] at ih
      rw [List.infix_cons_iff, ← ih]
      by_cases hc : c = a
      · subst hc
        have hfirst : [c, b] <+: c :: rest ↔ v.head? = some b := by
          rw [hv, List.cons_prefix_cons]
          cases rest <;> simp [eq_comm]
        rw [hfirst, splitOn, if_pos (beq_self_eq_true c), List.tail_cons, hs]
        simp
      · have hno : ¬[a, b] <+: c :: rest := by
          rw [List.cons_prefix_cons]
          exact fun h => hc h.1.symm
        rw [splitOn, if_neg (by simpa using hc), hs]
        simp [hno]

theorem cut_eq_none {l : List α} (h : ∀ a ∈ l, p a = false) : cut p l = (l, none) := by
  induction l with
  | nil => rfl
  | cons a rest ih => simp_all [cut]

theorem cut_append_cons {l : List α} (h : ∀ a ∈ l, p a = false) {a : α} (ha : p a)
    (r : List α) : cut p (l ++ a :: r) = (l, some r) := by
  induction l with
  | nil => simp [cut, ha]
  | cons b rest ih => simp_all [cut]

/-- What is added to a list goes on in its last piece. -/
theorem exists_splitOn_append (p : α → Bool) (l : List α) :
    ∃ pieces last, ∀ r, splitOn p (l ++ r) = pieces ++ (splitOn p r).modifyHead (last ++ ·) := by
  induction l with
  | nil => exact ⟨[], [], fun r => by cases h : splitOn p r <;> simp [h]⟩
  | cons a rest ih =>
    obtain ⟨pieces, last, ih⟩ := ih
    cases ha : p a with
    | true => exact ⟨[] :: pieces, last, fun r => by simp [splitOn, ha, ih]⟩
    | false =>
      cases pieces with
      | nil =>
        refine ⟨[], a :: last, fun r => ?_⟩
        cases h : splitOn p r <;> simp [splitOn, ha, ih, h]
      | cons piece pieces =>
        exact ⟨(a :: piece) :: pieces, last, fun r => by simp [splitOn, ha, ih]⟩

theorem splitOn_append_of_not {l : List α} (h : ∀ a ∈ l, p a = false) (r : List α) :
    splitOn p (l ++ r) = (splitOn p r).modifyHead (l ++ ·) := by
  induction l with
  | nil => cases h : splitOn p r <;> simp [h]
  | cons a rest ih =>
    have ih := ih fun b hb => h b (List.mem_cons_of_mem _ hb)
    cases hr : splitOn p r <;> simp [splitOn, h a List.mem_cons_self, ih, hr]

theorem cut_append_of_not {l : List α} (h : ∀ a ∈ l, p a = false) (r : List α) :
    cut p (l ++ r) = (l ++ (cut p r).1, (cut p r).2) := by
  induction l with
  | nil => rfl
  | cons a rest ih => simp_all [cut]

/-- A cut is made before what is added to a list, or the list has nothing to cut at. -/
theorem exists_cut_append (p : α → Bool) (l : List α) :
    (∃ before after, ∀ r, cut p (l ++ r) = (before, some (after ++ r))) ∨
      ∀ a ∈ l, p a = false := by
  induction l with
  | nil => exact .inr nofun
  | cons a rest ih =>
    cases ha : p a with
    | true => exact .inl ⟨[], rest, fun r => by simp [cut, ha]⟩
    | false =>
      obtain ⟨before, after, ih⟩ | ih := ih
      · exact .inl ⟨a :: before, after, fun r => by simp [cut, ha, ih]⟩
      · exact .inr (List.forall_mem_cons.mpr ⟨ha, ih⟩)

theorem prefix_cut (p : α → Bool) (l : List α) : (cut p l).1 <+: l := by
  induction l with
  | nil => exact List.prefix_rfl
  | cons a rest ih =>
    rw [cut]
    split
    · exact List.nil_prefix
    · exact List.cons_prefix_cons.mpr ⟨rfl, ih⟩

theorem head?_cut (p : α → Bool) (l : List α) : (cut p l).1.head? = l.head?.filter (!p ·) := by
  cases l with
  | nil => rfl
  | cons a rest => cases h : p a <;> simp [cut, h, Option.filter]

theorem fst_cut_eq_takeWhile (p : α → Bool) (l : List α) : (cut p l).1 = l.takeWhile (!p ·) := by
  induction l with
  | nil => rfl
  | cons a rest ih => cases h : p a <;> simp [cut, h, ih]

/-- The two parts of a cut, with the separator between them, are the list. -/
theorem fst_cut_append_snd_cut [BEq α] [LawfulBEq α] (a : α) (l : List α) :
    (cut (· == a) l).1 ++ (cut (· == a) l).2.elim [] (a :: ·) = l := by
  induction l with
  | nil => rfl
  | cons b rest ih =>
    cases h : b == a with
    | true => simp [cut, beq_iff_eq.mp h]
    | false => simp [cut, h, ih]

theorem takeWhile_append_of_head? {l r : List α} (h : ∀ a ∈ r.head?, p a = false) :
    (l ++ r).takeWhile p = l.takeWhile p := by
  induction l with
  | nil =>
    cases r with
    | nil => rfl
    | cons a r => exact List.takeWhile_cons_of_neg (by simp [h a rfl])
  | cons a l ih => rw [List.cons_append, List.takeWhile_cons, List.takeWhile_cons, ih]

section
variable {β : Type} {q : β → Bool} (f : β → α) {l : List β}

/-- What is split after a change of letters is what is changed after the split. -/
theorem splitOn_map (h : ∀ b ∈ l, p (f b) = q b) :
    splitOn p (l.map f) = (splitOn q l).map (List.map f) := by
  induction l with
  | nil => rfl
  | cons b rest ih =>
    rw [List.map_cons, splitOn, splitOn, h b List.mem_cons_self,
      ih fun c hc => h c (List.mem_cons_of_mem _ hc)]
    cases q b with
    | true => rfl
    | false => cases splitOn q rest <;> rfl

theorem dropWhile_map_eq (h : ∀ b ∈ l, p (f b) = q b) :
    (l.map f).dropWhile p = (l.dropWhile q).map f := by
  induction l with
  | nil => rfl
  | cons b rest ih =>
    rw [List.map_cons, List.dropWhile_cons, List.dropWhile_cons, h b List.mem_cons_self,
      ih fun c hc => h c (List.mem_cons_of_mem _ hc)]
    cases q b <;> rfl

end

/-- What stands in the joined pieces is a separator or stands in a piece. -/
theorem mem_intercalate {sep x : α} {pieces : List (List α)}
    (h : x ∈ [sep].intercalate pieces) : x = sep ∨ ∃ l ∈ pieces, x ∈ l := by
  induction pieces with
  | nil => simp at h
  | cons piece rest ih =>
    cases rest with
    | nil =>
      rw [List.intercalate_singleton] at h
      exact .inr ⟨piece, List.mem_cons_self, h⟩
    | cons next rest =>
      rw [List.intercalate_cons_cons, List.append_assoc, List.mem_append,
        List.singleton_append, List.mem_cons] at h
      obtain h | h | h := h
      · exact .inr ⟨piece, List.mem_cons_self, h⟩
      · exact .inl h
      · obtain h | ⟨l, hl, hx⟩ := ih h
        · exact .inl h
        · exact .inr ⟨l, List.mem_cons_of_mem _ hl, hx⟩

theorem hasInfix_iff [BEq α] [LawfulBEq α] {part l : List α} :
    hasInfix part l = true ↔ part <:+: l := by
  induction l with
  | nil => simp [hasInfix]
  | cons a rest ih => simp [hasInfix, ih, List.infix_cons_iff]

end ScopeGateway.Text
