/-!
# Lists whose elements have numbers

What the rest of the theory needs of lists and the library does not have.
-/

set_option autoImplicit false

namespace PollTunnel

variable {α β : Type}

/-- An element is found by its number if no other has it. -/
theorem find?_of_nodup {f : α → Nat} {l : List α} (hd : (l.map f).Nodup) {a : α} (ha : a ∈ l) :
    l.find? (f · = f a) = some a := by
  induction l with
  | nil => exact absurd ha List.not_mem_nil
  | cons b l ih =>
    rw [List.map_cons, List.nodup_cons] at hd
    rcases List.mem_cons.1 ha with rfl | ha
    · exact List.find?_cons_of_pos (by simp)
    · have hne : f b ≠ f a := fun h => hd.1 (List.mem_map.2 ⟨a, ha, h.symm⟩)
      rw [List.find?_cons_of_neg (by simpa using hne)]
      exact ih hd.2 ha

/-- What is taken out of a list was there once more. -/
theorem count_erase_add [DecidableEq α] {l : List α} {a : α} (h : a ∈ l) (b : α) :
    (l.erase a).count b + [a].count b = l.count b := by
  rw [← List.count_append]
  exact ((List.perm_append_singleton a _).trans (List.perm_cons_erase h).symm).count_eq b

/-- A part of a list that is put together from parts has no more of a number than the whole. -/
theorem count_le_count_flatMap {f : α → List Nat} {l : List α} {a : α} (ha : a ∈ l) (n : Nat) :
    (f a).count n ≤ (l.flatMap f).count n := by
  obtain ⟨l₁, l₂, rfl⟩ := List.append_of_mem ha
  rw [List.flatMap_append, List.flatMap_cons, List.count_append, List.count_append]
  omega

/-- A number that is there no more than once belongs to one element. -/
theorem eq_of_count_map_le_one {f : α → Nat} {l : List α} {n : Nat} (h : (l.map f).count n ≤ 1)
    {a b : α} (ha : a ∈ l) (hb : b ∈ l) (hfa : f a = n) (hfb : f b = n) : a = b := by
  obtain ⟨l₁, l₂, rfl⟩ := List.append_of_mem ha
  rw [List.map_append, List.map_cons, List.count_append, hfa, List.count_cons_self] at h
  rcases List.mem_append.1 hb with hb | hb
  · have := List.count_pos_iff.2 (List.mem_map.2 ⟨b, hb, hfb⟩)
    omega
  · rcases List.mem_cons.1 hb with rfl | hb
    · rfl
    · have := List.count_pos_iff.2 (List.mem_map.2 ⟨b, hb, hfb⟩)
      omega

/-- What is left when all elements of a number are taken out lacks what any one of them stood for.
-/
theorem count_filterMap_filter_ne [BEq β] {f : α → Option β} {k : α → Nat} {l : List α} {a : α}
    (ha : a ∈ l) (b : β) :
    ((l.filter (k · ≠ k a)).filterMap f).count b + (f a).toList.count b ≤
      (l.filterMap f).count b := by
  obtain ⟨l₁, l₂, rfl⟩ := List.append_of_mem ha
  have hle : ∀ m : List α, ((m.filter (k · ≠ k a)).filterMap f).count b ≤
      (m.filterMap f).count b := fun m => (List.filter_sublist.filterMap f).count_le b
  have hone : (a :: l₂).filterMap f = (f a).toList ++ l₂.filterMap f := by
    rw [List.filterMap_cons]
    cases f a <;> rfl
  have h₁ := hle l₁
  have h₂ := hle l₂
  rw [List.filter_append, List.filter_cons_of_neg (by simp), List.filterMap_append,
    List.filterMap_append, hone]
  simp only [List.count_append]
  omega

theorem mem_of_lookup {messages : List (Nat × α)} {number : Nat} {a : α}
    (h : messages.lookup number = some a) : (number, a) ∈ messages := by
  obtain ⟨l₁, l₂, rfl, -⟩ := List.lookup_eq_some_iff.1 h
  exact List.mem_append_right _ List.mem_cons_self

end PollTunnel
