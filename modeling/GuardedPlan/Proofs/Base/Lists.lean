/-!
# Lists and walks over them

A list that is written in two ways around an item, compared piece by piece, the run of items at its front that pass a test, parts with a separator between them, and what a numbered list has at one of its numbers.

A computation with errors, read backwards from its success: what a sequence, a change of the result and a walk over a list must have gone through. A walk that numbers the items meets every one of them.
-/

namespace GuardedPlan

section

variable {α : Type} {before rest inner tail other more : List α} {item : α}

theorem exists_split_of_not_mem (h : before ++ item :: rest = inner ++ tail) (hitem : item ∉ inner) :
    ∃ left, before = inner ++ left ∧ tail = left ++ item :: rest := by
  rcases List.append_eq_append_iff.1 h with ⟨beyond, hinner, hrest⟩ | ⟨left, hbefore, htail⟩
  · cases beyond with
    | nil => exact ⟨[], by rw [hinner, List.append_nil, List.append_nil], hrest.symm⟩
    | cons first others =>
      obtain ⟨rfl, -⟩ := List.cons.inj hrest
      exact absurd (by simp [hinner]) hitem
  · exact ⟨left, hbefore, htail⟩

/-- The first of the items that are equal to a given one. -/
theorem eq_of_append_cons_eq (h : before ++ item :: rest = other ++ item :: more) (hbefore : item ∉ before)
    (hother : item ∉ other) : before = other ∧ rest = more := by
  obtain ⟨left, rfl, hmore⟩ := exists_split_of_not_mem h hother
  cases left with
  | nil => exact ⟨List.append_nil _, (List.cons.inj hmore).2.symm⟩
  | cons first others =>
    obtain ⟨rfl, -⟩ := List.cons.inj hmore
    exact absurd (by simp) hbefore

/-- The last of the items that are equal to a given one. -/
theorem eq_of_append_cons_eq_last (h : before ++ item :: rest = other ++ item :: more) (hrest : item ∉ rest)
    (hmore : item ∉ more) : before = other ∧ rest = more := by
  have hreverse := congrArg List.reverse h
  simp only [List.reverse_append, List.reverse_cons, List.append_assoc, List.singleton_append] at hreverse
  obtain ⟨hlater, hearlier⟩ := eq_of_append_cons_eq hreverse (by simpa using hrest) (by simpa using hmore)
  exact ⟨List.reverse_inj.1 hearlier, List.reverse_inj.1 hlater⟩

/-- The longest run of items that pass a test, where the next item does not pass it. -/
theorem split_run {p : α → Bool} {run rest : List α} (hrun : ∀ item ∈ run, p item = true)
    (hrest : ∀ item ∈ rest.head?, p item = false) :
    (run ++ rest).takeWhile p = run ∧ (run ++ rest).dropWhile p = rest := by
  have hstop : rest.takeWhile p = [] ∧ rest.dropWhile p = rest := by
    cases rest with
    | nil => exact ⟨rfl, rfl⟩
    | cons item others =>
      have hitem : ¬ p item = true := by simp [hrest item rfl]
      exact ⟨List.takeWhile_cons_of_neg hitem, List.dropWhile_cons_of_neg hitem⟩
  rw [List.takeWhile_append_of_pos hrun, List.dropWhile_append_of_pos hrun, hstop.1, hstop.2, List.append_nil]
  exact ⟨rfl, rfl⟩

/-- Parts with a separator between them, when every item turns into a list. -/
theorem flatMap_intercalate {β : Type} (f : α → List β) (separator : List α) (parts : List (List α)) :
    (separator.intercalate parts).flatMap f = (separator.flatMap f).intercalate (parts.map fun part => part.flatMap f) := by
  induction parts with
  | nil => simp
  | cons part others ih =>
    cases others with
    | nil => simp
    | cons next more =>
      rw [List.map_cons, List.map_cons, List.intercalate_cons_cons, List.intercalate_cons_cons, ← List.map_cons, ← ih,
        List.flatMap_append, List.flatMap_append]

/-- What is left from the first of the items that are equal to a given one. -/
theorem drop_idxOf?_eq_dropWhile [DecidableEq α] {items : List α} (h : item ∈ items) :
    items.drop ((items.idxOf? item).getD 0) = items.dropWhile (· ≠ item) := by
  induction items with
  | nil => cases h
  | cons first others ih =>
    by_cases hfirst : first = item
    · simp [List.idxOf?_cons, hfirst]
    · have hmem : item ∈ others := (List.mem_cons.1 h).resolve_left (Ne.symm hfirst)
      obtain ⟨index, hindex⟩ := Option.isSome_iff_exists.1 (List.isSome_idxOf?.2 hmem)
      rw [hindex] at ih
      simpa [List.idxOf?_cons, hfirst, hindex] using ih hmem

/-- If nothing that comes from the other items passes a test, what passes it is what passes it of one item. -/
theorem filter_flatMap_zipIdx {β : Type} {items : List α} {f : α × Nat → List β} {p : β → Bool} {index : Nat}
    (hmem : (item, index) ∈ items.zipIdx)
    (hothers : ∀ entry ∈ items.zipIdx, entry.2 ≠ index → ∀ made ∈ f entry, p made = false) :
    (items.zipIdx.flatMap f).filter p = (f (item, index)).filter p := by
  have hdistinct : items.zipIdx.Pairwise fun entry other => entry.2 ≠ other.2 := by
    rw [← List.pairwise_map, List.zipIdx_map_snd]
    exact List.nodup_range'
  have hnothing : ∀ entry ∈ items.zipIdx, entry.2 ≠ index → (f entry).filter p = [] := by
    intro entry hentry hindex
    rw [List.filter_eq_nil_iff]
    intro made hmade
    rw [hothers entry hentry hindex made hmade]
    exact Bool.false_ne_true
  obtain ⟨before, after, hsplit⟩ := List.append_of_mem hmem
  rw [hsplit] at hdistinct hnothing
  obtain ⟨-, hafter, hbefore⟩ := List.pairwise_append.1 hdistinct
  have hfront : before.flatMap (fun entry => (f entry).filter p) = [] := List.flatMap_eq_nil_iff.2 fun entry hentry =>
    hnothing entry (List.mem_append_left _ hentry) (hbefore entry hentry _ List.mem_cons_self)
  have hback : after.flatMap (fun entry => (f entry).filter p) = [] := List.flatMap_eq_nil_iff.2 fun entry hentry =>
    hnothing entry (List.mem_append_right _ (List.mem_cons_of_mem _ hentry))
      ((List.pairwise_cons.1 hafter).1 entry hentry).symm
  rw [List.filter_flatMap, hsplit, List.flatMap_append, List.flatMap_cons, hfront, hback, List.nil_append,
    List.append_nil]

end

/-! ### Computations that succeed -/

variable {ε α β : Type}

theorem Except.bind_eq_ok_iff {first : Except ε α} {next : α → Except ε β} {result : β} :
    first.bind next = .ok result ↔ ∃ value, first = .ok value ∧ next value = .ok result := by
  cases first <;> simp [Except.bind]

theorem Except.map_eq_ok_iff {first : Except ε α} {change : α → β} {result : β} :
    first.map change = .ok result ↔ ∃ value, first = .ok value ∧ change value = result := by
  cases first <;> simp [Except.map]

theorem Except.map_map {γ : Type} (first : Except ε α) (change : α → β) (further : β → γ) :
    (first.map change).map further = first.map fun value => further (change value) := by
  cases first <;> rfl

theorem Except.toOption_eq_some_iff {result : Except ε α} {value : α} :
    result.toOption = some value ↔ result = .ok value := by
  cases result <;> simp [Except.toOption]

theorem mapM_cons_eq_ok_iff {f : α → Except ε β} {item : α} {items : List α} {results : List β} :
    (item :: items).mapM f = .ok results ↔
      ∃ first rest, f item = .ok first ∧ items.mapM f = .ok rest ∧ results = first :: rest := by
  rw [List.mapM_cons]
  cases hfirst : f item with
  | error fault => simp [bind, Except.bind]
  | ok first =>
    cases hrest : items.mapM f with
    | error fault => simp [bind, Except.bind]
    | ok rest => simp [bind, Except.bind, pure, Except.pure, eq_comm]

/-- Every result of a walk comes from one of the items. -/
theorem exists_of_mem_mapM {f : α → Except ε β} {items : List α} {results : List β} (h : items.mapM f = .ok results)
    {result : β} (hmem : result ∈ results) : ∃ item ∈ items, f item = .ok result := by
  induction items generalizing results with
  | nil =>
    cases h
    cases hmem
  | cons item rest ih =>
    obtain ⟨first, others, hfirst, hothers, rfl⟩ := mapM_cons_eq_ok_iff.1 h
    rcases List.mem_cons.1 hmem with rfl | hmem
    · exact ⟨item, List.mem_cons_self, hfirst⟩
    · obtain ⟨other, hother, hresult⟩ := ih hothers hmem
      exact ⟨other, List.mem_cons_of_mem _ hother, hresult⟩

/-- A walk that no item can stop ends. -/
theorem exists_mapM_eq_ok {f : α → Except ε β} {items : List α} (h : ∀ item ∈ items, ∃ result, f item = .ok result) :
    ∃ results, items.mapM f = .ok results := by
  induction items with
  | nil => exact ⟨[], rfl⟩
  | cons item rest ih =>
    obtain ⟨first, hfirst⟩ := h item List.mem_cons_self
    obtain ⟨others, hothers⟩ := ih fun other hother => h other (List.mem_cons_of_mem item hother)
    exact ⟨first :: others, mapM_cons_eq_ok_iff.2 ⟨first, others, hfirst, hothers, rfl⟩⟩

/-- Results and items look the same through two maps when every single result and its item do. -/
theorem map_eq_of_mapM {γ : Type} {f : α → Except ε β} {items : List α} {results : List β}
    (h : items.mapM f = .ok results) {left : β → γ} {right : α → γ}
    (hsame : ∀ item ∈ items, ∀ result, f item = .ok result → left result = right item) :
    results.map left = items.map right := by
  induction items generalizing results with
  | nil =>
    cases h
    rfl
  | cons item rest ih =>
    obtain ⟨first, others, hfirst, hothers, rfl⟩ := mapM_cons_eq_ok_iff.1 h
    rw [List.map_cons, List.map_cons, hsame item List.mem_cons_self first hfirst,
      ih hothers fun other hother => hsame other (List.mem_cons_of_mem item hother)]

/-- A walk that keeps its state in another form goes the same way, if every step does. -/
theorem foldlM_embed {γ : Type} (embed : β → γ) {step : γ → α → Except ε γ} {small : β → α → Except ε β}
    {items : List α} (h : ∀ item ∈ items, ∀ state, step (embed state) item = (small state item).map embed)
    (state : β) : items.foldlM step (embed state) = (items.foldlM small state).map embed := by
  induction items generalizing state with
  | nil => rfl
  | cons item rest ih =>
    rw [List.foldlM_cons, List.foldlM_cons, h item List.mem_cons_self]
    cases small state item with
    | error fault => rfl
    | ok next => exact ih (fun other hother => h other (List.mem_cons_of_mem item hother)) next

theorem exists_mem_zipIdx {item : α} {items : List α} (h : item ∈ items) : ∃ index, (item, index) ∈ items.zipIdx := by
  rw [← List.zipIdx_map_fst 0 items] at h
  obtain ⟨⟨_, index⟩, hmem, rfl⟩ := List.mem_map.1 h
  exact ⟨index, hmem⟩

end GuardedPlan
