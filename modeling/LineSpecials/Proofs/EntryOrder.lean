import LineSpecials.Proofs.TableReading
import Mathlib.Data.Char
import Mathlib.Data.List.Lex
import Mathlib.Data.Prod.Lex

namespace LineSpecials

namespace Entry

/-- The key of an entry in the lexicographic order. -/
def orderKey (e : Entry) : Text ×ₗ Text ×ₗ Nat := toLex (e.code.padded, toLex (e.name, e.arity))

theorem orderKey_eq_iff {a b : Entry} : a.orderKey = b.orderKey ↔ a.sortKey = b.sortKey := Iff.rfl

theorem notAfter_iff (a b : Entry) : notAfter a b = true ↔ a.orderKey ≤ b.orderKey := by
  unfold notAfter orderKey
  rw [Prod.Lex.toLex_le_toLex, Prod.Lex.toLex_le_toLex]
  simp

theorem pairwise_sort (es : List Entry) : (sort es).Pairwise (·.orderKey ≤ ·.orderKey) := by
  have h : (sort es).Pairwise fun a b => notAfter a b = true := by
    apply List.pairwise_mergeSort
    · intro a b c
      simp only [notAfter_iff]
      exact le_trans
    · intro a b
      simp only [Bool.or_eq_true, notAfter_iff]
      exact le_total _ _
  exact h.imp fun hab => (notAfter_iff _ _).mp hab

theorem sort_perm (es : List Entry) : (sort es).Perm es := List.mergeSort_perm es notAfter

variable {l₁ l₂ : List Entry}

theorem sort_perm_sort (h : l₁.Perm l₂) : (sort l₁).Perm (sort l₂) :=
  (sort_perm l₁).trans (h.trans (sort_perm l₂).symm)

theorem map_sortKey_sort_eq (h : l₁.Perm l₂) :
    (sort l₁).map sortKey = (sort l₂).map sortKey := by
  have hperm : ((sort l₁).map orderKey).Perm ((sort l₂).map orderKey) := (sort_perm_sort h).map _
  have hsorted : ∀ l, ((sort l).map orderKey).Pairwise (· ≤ ·) := fun l =>
    List.pairwise_map.mpr (pairwise_sort l)
  have hkeys : (sort l₁).map orderKey = (sort l₂).map orderKey :=
    hperm.eq_of_pairwise (fun _ _ _ _ => le_antisymm) (hsorted l₁) (hsorted l₂)
  exact hkeys

/-- Entries that their keys tell apart have one sorted order. -/
theorem sort_eq_of_perm (h : l₁.Perm l₂)
    (hkey : ∀ a ∈ l₁, ∀ b ∈ l₂, a.sortKey = b.sortKey → a = b) : sort l₁ = sort l₂ := by
  refine (sort_perm_sort h).eq_of_pairwise ?_ (pairwise_sort l₁) (pairwise_sort l₂)
  intro a b ha hb hab hba
  apply hkey a ((sort_perm l₁).mem_iff.mp ha) b ((sort_perm l₂).mem_iff.mp hb)
  exact orderKey_eq_iff.mp (le_antisymm hab hba)

/-- Sorting finds a list that is in order. -/
theorem sort_eq_of_pairwise (h : l₁.Perm l₂) (hsorted : l₂.Pairwise fun a b => notAfter a b = true)
    (hkey : ∀ a ∈ l₁, ∀ b ∈ l₂, a.sortKey = b.sortKey → a = b) : sort l₁ = l₂ :=
  (sort_eq_of_perm h hkey).trans (List.mergeSort_of_pairwise hsorted)

/-- Sorting keeps the places of entries with one key among each other. -/
theorem filter_sortKey_sort (key : Text × Text × Nat) (es : List Entry) :
    (sort es).filter (·.sortKey = key) = es.filter (·.sortKey = key) := by
  have hsame : (es.filter (·.sortKey = key)).Pairwise fun a b => notAfter a b = true := by
    apply List.pairwise_of_forall_mem_list
    intro a ha b hb
    have hab : a.sortKey = b.sortKey := by
      rw [of_decide_eq_true (List.mem_filter.mp ha).2, of_decide_eq_true (List.mem_filter.mp hb).2]
    exact (notAfter_iff a b).mpr (orderKey_eq_iff.mpr hab).le
  have hsub : (es.filter (·.sortKey = key)).Sublist (sort es) := by
    apply List.sublist_mergeSort _ _ hsame List.filter_sublist
    · intro a b c
      simp only [notAfter_iff]
      exact le_trans
    · intro a b
      simp only [Bool.or_eq_true, notAfter_iff]
      exact le_total _ _
  have hfilter := hsub.filter (·.sortKey = key)
  simp only [List.filter_filter, Bool.and_self] at hfilter
  exact (hfilter.eq_of_length ((sort_perm es).filter _).length_eq.symm).symm

theorem mem_iff_of_filter_sortKey_eq
    (h : ∀ key, l₁.filter (·.sortKey = key) = l₂.filter (·.sortKey = key)) (a : Entry) :
    a ∈ l₁ ↔ a ∈ l₂ := by
  have ha : a ∈ l₁.filter (·.sortKey = a.sortKey) ↔ a ∈ l₂.filter (·.sortKey = a.sortKey) := by
    rw [h]
  simpa using ha

/-- A list in order of keys is determined by what it holds of each key. -/
theorem eq_of_filter_sortKey_eq (h₁ : l₁.Pairwise (·.orderKey ≤ ·.orderKey))
    (h₂ : l₂.Pairwise (·.orderKey ≤ ·.orderKey))
    (h : ∀ key, l₁.filter (·.sortKey = key) = l₂.filter (·.sortKey = key)) : l₁ = l₂ := by
  induction l₁ generalizing l₂ with
  | nil =>
    cases l₂ with
    | nil => rfl
    | cons b bs => simpa using mem_iff_of_filter_sortKey_eq h b
  | cons a as ih =>
    cases l₂ with
    | nil => simpa using mem_iff_of_filter_sortKey_eq h a
    | cons b bs =>
      have hmem := mem_iff_of_filter_sortKey_eq h
      obtain ⟨ha, has⟩ := List.pairwise_cons.mp h₁
      obtain ⟨hb, hbs⟩ := List.pairwise_cons.mp h₂
      have hab : a.orderKey ≤ b.orderKey := by
        rcases List.mem_cons.mp ((hmem b).mpr (by simp)) with rfl | hm
        · exact le_refl _
        · exact ha b hm
      have hba : b.orderKey ≤ a.orderKey := by
        rcases List.mem_cons.mp ((hmem a).mp (by simp)) with rfl | hm
        · exact le_refl _
        · exact hb a hm
      have hkey : b.sortKey = a.sortKey := orderKey_eq_iff.mp (le_antisymm hba hab)
      have heads := h a.sortKey
      rw [List.filter_cons_of_pos (by simp), List.filter_cons_of_pos (by simpa using hkey)] at heads
      obtain ⟨rfl, -⟩ := List.cons.inj heads
      have tails : ∀ key, as.filter (·.sortKey = key) = bs.filter (·.sortKey = key) := by
        intro key
        have hk := h key
        rw [List.filter_cons, List.filter_cons] at hk
        split at hk
        next => exact (List.cons.inj hk).2
        next => exact hk
      rw [ih has hbs tails]

/-- Sorting first some entries and then all is sorting all at once. -/
theorem sort_sort_append (as bs : List Entry) : sort (sort as ++ bs) = sort (as ++ bs) := by
  apply eq_of_filter_sortKey_eq (pairwise_sort _) (pairwise_sort _)
  intro key
  rw [filter_sortKey_sort, filter_sortKey_sort, List.filter_append, List.filter_append,
    filter_sortKey_sort]

/-- The written form of an entry by its key. -/
def keyText (key : Text × Text × Nat) : Text :=
  key.1 ++ (':' :: key.2.1 ++ '(' :: Text.ofNat key.2.2 ++ [')'])

theorem keyText_sortKey (e : Entry) : keyText e.sortKey = e.padded := rfl

theorem Clean.eq_of_sortKey_eq {a b : Entry} (ha : a.Clean) (hb : b.Clean)
    (h : a.sortKey = b.sortKey) : a = b := by
  obtain ⟨hpadded, hname, harity⟩ : a.code.padded = b.code.padded ∧ _ := by
    simpa [sortKey] using h
  have hcode : a.code.text = b.code.text := by
    rw [← ha.dropWhile_space_padded, hpadded, hb.dropWhile_space_padded]
  obtain ⟨⟨code⟩, name, arity⟩ := a
  obtain ⟨⟨code'⟩, name', arity'⟩ := b
  cases (hcode : code = code')
  cases (hname : name = name')
  cases (harity : arity = arity')
  rfl

/-- Codes that are not trimmed may share a key. -/
example : sortKey ⟨⟨" 5"⟩, "Door", 1⟩ = sortKey ⟨⟨"5"⟩, "Door", 1⟩ := by decide

end Entry

/-- Entries of scans are told apart by their keys, whichever way they were found. -/
theorem ScanResult.eq_of_sortKey_eq (bindings₁ bindings₂ : Option (List Text))
    {actions₁ actions₂ : Source} {e₁ e₂ : Entry}
    (h₁ : e₁ ∈ (ofSource (bindings₁.map BindingMap.ofLines) actions₁).entries)
    (h₂ : e₂ ∈ (ofSource (bindings₂.map BindingMap.ofLines) actions₂).entries)
    (hkey : e₁.sortKey = e₂.sortKey) : e₁ = e₂ :=
  (clean_of_mem_ofSource h₁).eq_of_sortKey_eq (clean_of_mem_ofSource h₂) hkey

namespace Table

theorem terminatedLines_congr {es es' : List Entry}
    (h : es.map Entry.padded = es'.map Entry.padded) :
    terminatedLines es = terminatedLines es' := by
  have hlength : es.length = es'.length := by simpa using congrArg List.length h
  apply List.ext_getElem?
  intro i
  have hi : es[i]?.map Entry.padded = es'[i]?.map Entry.padded := by
    simpa using congrArg (·[i]?) h
  have hline : ∀ e : Option Entry, (e.map fun e =>
      e.padded ++ [if i + 1 = es'.length then ';' else ',']) =
        (e.map Entry.padded).map (· ++ [if i + 1 = es'.length then ';' else ',']) := by
    intro e
    rw [Option.map_map]
    rfl
  rw [terminatedLines_getElem?, terminatedLines_getElem?, hlength, hline, hline, hi]

/-- Sorting gives one table whichever order entries come in. -/
theorem render_sort_eq_of_perm {l₁ l₂ : List Entry} (h : l₁.Perm l₂) :
    render ⟨.sorted, Entry.sort l₁⟩ = render ⟨.sorted, Entry.sort l₂⟩ := by
  have hkeys : ∀ l : List Entry, l.map Entry.padded = (l.map Entry.sortKey).map Entry.keyText := by
    intro l
    rw [List.map_map]
    exact List.map_congr_left fun e _ => (Entry.keyText_sortKey e).symm
  have hpadded : (Entry.sort l₁).map Entry.padded = (Entry.sort l₂).map Entry.padded := by
    rw [hkeys, hkeys, Entry.map_sortKey_sort_eq h]
  rw [render_eq_ofLines, render_eq_ofLines]
  unfold entryLines
  dsimp only
  rw [terminatedLines_congr hpadded]

/-- A sorted table does not depend on the order in which its entries were found. For entries of any
kind its text does not; entries of scans are told apart by their keys, so for sources whose blocks
have the same entries, in whatever order, the entries of the runs are the same list as well. -/
theorem sorted_eq_of_perm (l₁ l₂ : List Entry) (bindings₁ bindings₂ : Option (List Text))
    (actions₁ actions₂ : Source) (denyEmpty₁ denyEmpty₂ : Bool) :
    (l₁.Perm l₂ → render ⟨.sorted, Entry.sort l₁⟩ = render ⟨.sorted, Entry.sort l₂⟩) ∧
      (∀ e₁ ∈ (ScanResult.ofSource (bindings₁.map BindingMap.ofLines) actions₁).entries,
        ∀ e₂ ∈ (ScanResult.ofSource (bindings₂.map BindingMap.ofLines) actions₂).entries,
          e₁.sortKey = e₂.sortKey → e₁ = e₂) ∧
      ((Block.entries actions₁.lines).Perm (Block.entries actions₂.lines) →
        ∃ s₁ s₂, Request.run ⟨actions₁, none, denyEmpty₁⟩ = .ok s₁ ∧
          Request.run ⟨actions₂, none, denyEmpty₂⟩ = .ok s₂ ∧
          s₁.entries = s₂.entries ∧ s₁.table.render = s₂.table.render) := by
  refine ⟨render_sort_eq_of_perm, ?_, ?_⟩
  · exact fun e₁ h₁ e₂ h₂ => ScanResult.eq_of_sortKey_eq bindings₁ bindings₂ h₁ h₂
  · intro hperm
    have hentries : Entry.sort (Block.entries actions₁.lines) =
        Entry.sort (Block.entries actions₂.lines) :=
      Entry.sort_eq_of_perm hperm fun a ha b hb => ScanResult.eq_of_sortKey_eq none none ha hb
    exact ⟨_, _, Request.run_eq _, Request.run_eq _, hentries, render_sort_eq_of_perm hperm⟩

/-- The lines of a block. -/
def blockLines (name code : Text) : List Text :=
  ["//", "// EV_Door", "//", "// Implements " ++ name ++ "(tag, speed)", "//   ExtraData:",
    "// Code: " ++ code]

/-- Two blocks that are not in the order of their codes. -/
def unsortedDoorLines : List Text := blockLines "Door_Raise" "12" ++ blockLines "Door_Close" "5"

/-- What these blocks are, in order. -/
def sortedDoors : List Entry := [⟨⟨"5"⟩, "Door_Close", 2⟩, ⟨⟨"12"⟩, "Door_Raise", 2⟩]

theorem sort_unsortedDoors :
    Entry.sort (Block.entries (Text.ofLines unsortedDoorLines).lines) = sortedDoors :=
  Entry.sort_eq_of_pairwise (by decide +kernel) (by decide) (by decide +kernel)

theorem door_runs_eq :
    ∃ s₁ s₂,
      Request.run ⟨⟨"a.c", Text.ofLines unsortedDoorLines⟩, none, false⟩ = .ok s₁ ∧
      Request.run ⟨⟨"b.c", Text.ofLines (blockLines "Door_Close" "5" ++
        blockLines "Door_Raise" "12")⟩, none, true⟩ = .ok s₂ ∧
      s₁.entries = s₂.entries ∧ s₁.table.render = s₂.table.render ∧
      s₂.entries = sortedDoors ∧
      s₂.table.render = "specials\n\t  5:Door_Close(2),\n\t 12:Door_Raise(2);\n".toList := by
  obtain ⟨s₁, s₂, hrun₁, hrun₂, hentries, htext⟩ :=
    (sorted_eq_of_perm [] [] none none ⟨"a.c", Text.ofLines unsortedDoorLines⟩
      ⟨"b.c", Text.ofLines (blockLines "Door_Close" "5" ++ blockLines "Door_Raise" "12")⟩
      false true).2.2 (by decide +kernel)
  have hs₁ := Except.ok.inj (hrun₁.symm.trans (Request.run_eq _))
  have hsorted : s₁.table = ⟨.sorted, sortedDoors⟩ := by
    rw [hs₁]
    exact congrArg (Table.mk .sorted) sort_unsortedDoors
  refine ⟨s₁, s₂, hrun₁, hrun₂, hentries, htext, ?_, ?_⟩
  · rw [← hentries]
    exact congrArg Table.entries hsorted
  · rw [← htext, hsorted]
    decide +kernel

end Table

end LineSpecials
