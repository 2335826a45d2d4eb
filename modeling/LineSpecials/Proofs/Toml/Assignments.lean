import LineSpecials.Toml.Document
import Mathlib.Data.List.Nodup

namespace LineSpecials.Toml

/-- A key with its value. -/
abbrev Member := Located Text × Located Value

/-- Whether a value has no table of its own; what stands in the items of a list is no member of a
table of the document. -/
def Value.isLeaf : Value → Bool
  | .table _ _ | .array .tables _ => false
  | _ => true

/-- Whether a value is written behind an equals sign: a leaf, or a table in braces. -/
def Value.isWritten : Value → Bool
  | .table .inline _ => true
  | v => v.isLeaf

/-- A member whose value is written behind an equals sign, at any depth in a value. -/
inductive Value.Assigns : Value → Member → Prop
  | written {kind : TableKind} {ms : Members} {m : Member} (hm : m ∈ ms)
      (hwritten : m.2.value.isWritten) : Assigns (.table kind ms) m
  | member {kind : TableKind} {ms : Members} {n m : Member} (hn : n ∈ ms)
      (hm : Assigns n.2.value m) : Assigns (.table kind ms) m
  | element {items : List (Located Value)} {i : Located Value} {m : Member} (hi : i ∈ items)
      (hm : Assigns i.value m) : Assigns (.array .tables items) m

/-- What a member comes to: itself, if its value is written, and what is assigned in there. -/
def Holds (n m : Member) : Prop := m = n ∧ n.2.value.isWritten ∨ n.2.value.Assigns m

/-- What some member of a table comes to. -/
def Members.Assigns (ms : Members) (m : Member) : Prop := ∃ n ∈ ms, Holds n m

/-- Keys ascend in every table, and arrays of tables hold nothing else. -/
inductive Value.Lawful : Value → Prop
  | leaf {v : Value} (h : v.isLeaf) : Lawful v
  | table {kind : TableKind} {ms : Members} (hkeys : ms.Pairwise (·.1.value < ·.1.value))
      (hms : ∀ m ∈ ms, Lawful m.2.value) : Lawful (.table kind ms)
  | elements {items : List (Located Value)}
      (htables : ∀ i ∈ items, ∃ kind ms, i.value = .table kind ms)
      (hitems : ∀ i ∈ items, Lawful i.value) : Lawful (.array .tables items)

/-- Keys ascend, and so do those of the tables in the values. -/
structure Members.Lawful (ms : Members) : Prop where
  keys : ms.Pairwise (·.1.value < ·.1.value)
  values : ∀ m ∈ ms, m.2.value.Lawful

/-- Lawful members that hold what others do and, beyond it, no more than `New`. -/
structure Grows (New : Member → Prop) (ms ms' : Members) : Prop where
  lawful : ms'.Lawful
  assigns_iff : ∀ m, ms'.Assigns m ↔ ms.Assigns m ∨ New m

namespace Value

variable {v : Value} {m : Member} {kind : TableKind} {ms : Members} {items : List (Located Value)}

theorem isWritten_of_isLeaf (h : v.isLeaf) : v.isWritten := by
  unfold Value.isWritten
  split
  · rfl
  · exact h

theorem isWritten_table (h : kind ≠ .inline) : isWritten (.table kind ms) = false := by
  cases kind <;> first | rfl | exact absurd rfl h

theorem not_assigns_of_isLeaf (h : v.isLeaf) : ¬ v.Assigns m := by
  intro hm
  cases hm <;> cases h

theorem assigns_table_iff : Assigns (.table kind ms) m ↔ ms.Assigns m := by
  constructor
  · intro h
    cases h with
    | written hm hwritten => exact ⟨m, hm, .inl ⟨rfl, hwritten⟩⟩
    | member hn hm => exact ⟨_, hn, .inr hm⟩
  · rintro ⟨n, hn, ⟨rfl, hwritten⟩ | hm⟩
    · exact .written hn hwritten
    · exact .member hn hm

theorem assigns_elements_iff :
    Assigns (.array .tables items) m ↔ ∃ i ∈ items, i.value.Assigns m := by
  constructor
  · intro h
    cases h with
    | element hi hm => exact ⟨_, hi, hm⟩
  · rintro ⟨i, hi, hm⟩
    exact .element hi hm

theorem lawful_table_iff : Lawful (.table kind ms) ↔ ms.Lawful := by
  constructor
  · intro h
    cases h with
    | leaf h => cases h
    | table hkeys hms => exact ⟨hkeys, hms⟩
  · exact fun h => .table h.keys h.values

theorem lawful_elements_iff : Lawful (.array .tables items) ↔
    ∀ i ∈ items, (∃ kind ms, i.value = .table kind ms) ∧ i.value.Lawful := by
  constructor
  · intro h
    cases h with
    | leaf h => cases h
    | elements htables hitems => exact fun i hi => ⟨htables i hi, hitems i hi⟩
  · exact fun h => .elements (fun i hi => (h i hi).1) fun i hi => (h i hi).2

theorem lawful_elements_concat {i : Located Value} :
    Lawful (.array .tables (items ++ [i])) ↔
      Lawful (.array .tables items) ∧ (∃ kind ms, i.value = .table kind ms) ∧ i.value.Lawful := by
  rw [lawful_elements_iff, lawful_elements_iff, List.forall_mem_append, List.forall_mem_singleton]

theorem assigns_elements_concat {i : Located Value} :
    Assigns (.array .tables (items ++ [i])) m ↔
      Assigns (.array .tables items) m ∨ i.value.Assigns m := by
  simp only [assigns_elements_iff, List.mem_append, List.mem_singleton]
  grind

end Value

theorem holds_of_not_isWritten {n : Member} (h : n.2.value.isWritten = false) (m : Member) :
    Holds n m ↔ n.2.value.Assigns m := by
  unfold Holds
  simp [h]

theorem holds_of_isWritten {n : Member} (h : n.2.value.isWritten) (m : Member) :
    Holds n m ↔ m = n ∨ n.2.value.Assigns m := by
  unfold Holds
  simp [h]

namespace Members

variable {ms before after : Members} {key : Located Text} {k : Text} {v old : Located Value}
  {m n : Member} {New : Member → Prop}

theorem lawful_nil : Lawful [] := ⟨.nil, fun _ h => nomatch h⟩

theorem not_assigns_nil : ¬ Assigns [] m := fun ⟨_, hn, _⟩ => nomatch hn

theorem assigns_insert :
    Assigns (before ++ n :: after) m ↔ Assigns (before ++ after) m ∨ Holds n m := by
  unfold Assigns
  simp only [List.mem_append, List.mem_cons]
  grind

/-- A lawful table has a key once. -/
theorem Lawful.eq_of_key (h : ms.Lawful) (hn : n ∈ ms) (hm : m ∈ ms)
    (hkey : n.1.value = m.1.value) : n = m := by
  have hne : ms.Pairwise fun a b => a.1.value ≠ b.1.value := by
    refine h.keys.imp fun {a b} hlt he => ?_
    rw [he] at hlt
    exact List.lt_irrefl _ hlt
  exact List.inj_on_of_nodup_map (List.pairwise_map.mpr hne) hn hm hkey

theorem split_of_find? (h : ms.Lawful) (hfind : find? k ms = some old) :
    ∃ before key after, ms = before ++ (key, old) :: after ∧ key.value = k ∧
      (∀ n ∈ before, n.1.value < k) ∧ ∀ n ∈ after, k < n.1.value := by
  obtain ⟨⟨key, _⟩, hm, rfl⟩ := Option.map_eq_some_iff.mp hfind
  obtain ⟨hkey, before, after, rfl, -⟩ := List.find?_eq_some_iff_append.mp hm
  obtain rfl := beq_iff_eq.mp hkey
  obtain ⟨-, hafter, hbefore⟩ := List.pairwise_append.mp h.keys
  refine ⟨before, key, after, rfl, rfl, fun n hn => ?_, fun n hn => ?_⟩
  · exact hbefore n hn _ List.mem_cons_self
  · exact (List.pairwise_cons.mp hafter).1 n hn

theorem ne_of_find?_eq_none (h : find? k ms = none) : ∀ n ∈ ms, n.1.value ≠ k := by
  intro n hn
  have := List.find?_eq_none.mp (Option.map_eq_none_iff.mp h) n hn
  simpa using this

theorem put_append (h : ∀ n ∈ before, n.1.value < key.value) :
    put key v (before ++ after) = before ++ put key v after := by
  induction before with
  | nil => rfl
  | cons n before ih =>
    have hn := h n List.mem_cons_self
    rw [List.cons_append, put, if_neg (List.lt_asymm hn),
      if_neg fun he => List.lt_irrefl _ (he ▸ hn), ih fun n hn => h n (List.mem_cons_of_mem _ hn)]
    rfl

/-- A new key goes between the smaller and the greater ones. -/
theorem put_of_find?_eq_none (h : ms.Lawful) (hfind : find? key.value ms = none) :
    ∃ before after, ms = before ++ after ∧ put key v ms = before ++ (key, v) :: after ∧
      (∀ n ∈ before, n.1.value < key.value) ∧ ∀ n ∈ after, key.value < n.1.value := by
  have hne := ne_of_find?_eq_none hfind
  have hkeys := h.keys
  clear hfind h
  induction ms with
  | nil => exact ⟨[], [], rfl, rfl, by simp, by simp⟩
  | cons n ms ih =>
    obtain ⟨hn, hkeys⟩ := List.pairwise_cons.mp hkeys
    rcases Std.lt_trichotomy key.value n.1.value with hlt | heq | hgt
    · refine ⟨[], n :: ms, rfl, by rw [put, if_pos hlt]; rfl, by simp, fun x hx => ?_⟩
      rcases List.mem_cons.mp hx with rfl | hx
      · exact hlt
      · exact List.lt_trans hlt (hn x hx)
    · exact absurd heq.symm (hne n List.mem_cons_self)
    · obtain ⟨before, after, rfl, hput, hbefore, hafter⟩ :=
        ih (fun x hx => hne x (List.mem_cons_of_mem _ hx)) hkeys
      refine ⟨n :: before, after, rfl, ?_, fun x hx => ?_, hafter⟩
      · have hcons : put key v ([n] ++ (before ++ after)) = [n] ++ put key v (before ++ after) :=
          put_append (by simpa using hgt)
        rw [hput] at hcons
        exact hcons
      · rcases List.mem_cons.mp hx with rfl | hx
        · exact hgt
        · exact hbefore x hx

theorem lawful_insert (h : Lawful (before ++ after)) (hbefore : ∀ n ∈ before, n.1.value < key.value)
    (hafter : ∀ n ∈ after, key.value < n.1.value) (hv : v.value.Lawful) :
    Lawful (before ++ (key, v) :: after) := by
  obtain ⟨hb, ha, hba⟩ := List.pairwise_append.mp h.keys
  refine ⟨List.pairwise_append.mpr ⟨hb, List.pairwise_cons.mpr ⟨hafter, ha⟩, fun x hx y hy => ?_⟩,
    fun x hx => ?_⟩
  · rcases List.mem_cons.mp hy with rfl | hy
    · exact hbefore x hx
    · exact hba x hx y hy
  · rcases List.mem_append.mp hx with hx | hx
    · exact h.values x (List.mem_append_left _ hx)
    · rcases List.mem_cons.mp hx with rfl | hx
      · exact hv
      · exact h.values x (List.mem_append_right _ hx)

theorem Lawful.erase (h : Lawful (before ++ n :: after)) : Lawful (before ++ after) := by
  have hsub : (before ++ after).Sublist (before ++ n :: after) :=
    (List.Sublist.refl before).append (List.sublist_cons_self n after)
  exact ⟨h.keys.sublist hsub, fun x hx => h.values x (hsub.mem hx)⟩

theorem grows_put (h : ms.Lawful) (hfind : find? key.value ms = none) (hv : v.value.Lawful) :
    Grows (Holds (key, v)) ms (put key v ms) := by
  obtain ⟨before, after, rfl, hput, hbefore, hafter⟩ := put_of_find?_eq_none (v := v) h hfind
  rw [hput]
  exact ⟨lawful_insert h hbefore hafter hv, fun m => assigns_insert⟩

/-- Another value for a key, when neither the old nor the new one is written behind the key. -/
theorem grows_replace (h : Lawful (before ++ (key, old) :: after)) {key' : Located Text}
    (hkey : key'.value = key.value) (hv : v.value.Lawful) (hold : old.value.isWritten = false)
    (hnew : v.value.isWritten = false)
    (hassigns : ∀ m, v.value.Assigns m ↔ old.value.Assigns m ∨ New m) :
    Grows New (before ++ (key, old) :: after) (before ++ (key', v) :: after) := by
  obtain ⟨-, ha, hb⟩ := List.pairwise_append.mp h.keys
  constructor
  · apply lawful_insert h.erase (fun n hn => ?_) (fun n hn => ?_) hv
    · exact hkey ▸ hb n hn _ List.mem_cons_self
    · exact hkey ▸ (List.pairwise_cons.mp ha).1 n hn
  · intro m
    rw [assigns_insert, assigns_insert, holds_of_not_isWritten hnew, holds_of_not_isWritten hold,
      hassigns, or_assoc]

theorem grows_set (h : ms.Lawful) (hfind : find? k ms = some old) (hv : v.value.Lawful)
    (hold : old.value.isWritten = false) (hnew : v.value.isWritten = false)
    (hassigns : ∀ m, v.value.Assigns m ↔ old.value.Assigns m ∨ New m) :
    Grows New ms (set k v ms) := by
  obtain ⟨before, key, after, rfl, rfl, hbefore, hafter⟩ := split_of_find? h hfind
  have hsame (ns : Members) (hne : ∀ n ∈ ns, n.1.value ≠ key.value) : set key.value v ns = ns :=
    (List.map_congr_left fun n hn => if_neg (hne n hn)).trans (List.map_id ns)
  have hset : set key.value v (before ++ (key, old) :: after) =
      set key.value v before ++ (key, v) :: set key.value v after := by
    unfold set
    rw [List.map_append, List.map_cons, if_pos rfl]
  rw [hset, hsame before fun n hn he => List.lt_irrefl _ (he ▸ hbefore n hn),
    hsame after fun n hn he => List.lt_irrefl _ (he ▸ hafter n hn)]
  exact grows_replace h rfl hv hold hnew hassigns

theorem grows_put_over (h : ms.Lawful) (hfind : find? key.value ms = some old)
    (hv : v.value.Lawful) (hold : old.value.isWritten = false) (hnew : v.value.isWritten = false)
    (hassigns : ∀ m, v.value.Assigns m ↔ old.value.Assigns m ∨ New m) :
    Grows New ms (put key v ms) := by
  obtain ⟨before, key', after, rfl, hkey, hbefore, -⟩ := split_of_find? h hfind
  have hput : put key v (before ++ (key', old) :: after) = before ++ (key, v) :: after := by
    rw [put_append hbefore, put, if_neg (by simp [hkey]), if_pos hkey]
  rw [hput]
  exact grows_replace h hkey.symm hv hold hnew hassigns

theorem value_of_find? (h : ms.Lawful) (hfind : find? k ms = some old) : old.value.Lawful := by
  obtain ⟨before, key, after, rfl, -⟩ := split_of_find? h hfind
  exact h.values (key, old) (by simp)

end Members

section Changes

variable {New : Member → Prop} {kind : TableKind} {ms ms' : Members} {path : List (Located Text)}
  {key : Located Text} {v : Located Value} {span : Span}

theorem grows_refl (h : ms.Lawful) : Grows (fun _ => False) ms ms := ⟨h, fun _ => by simp⟩

theorem Grows.trans {New' : Member → Prop} {ms'' : Members} (h : Grows New ms ms')
    (h' : Grows New' ms' ms'') : Grows (fun m => New m ∨ New' m) ms ms'' :=
  ⟨h'.lawful, fun m => by rw [h'.assigns_iff, h.assigns_iff, or_assoc]⟩

/-- A table in the place of another that has grown into it. -/
theorem Grows.table {members inner : Members} (h : Grows New members inner)
    (kind kind' : TableKind) (m : Member) :
    (Value.table kind inner).Assigns m ↔ (Value.table kind' members).Assigns m ∨ New m := by
  rw [Value.assigns_table_iff, Value.assigns_table_iff, h.assigns_iff]

/-- A new table that has grown out of nothing. -/
theorem Grows.put_table {inner : Members} (h : Grows New [] inner) (hms : ms.Lawful)
    (hfind : Members.find? key.value ms = none) (hkind : kind ≠ .inline) (span : Span) :
    Grows New ms (Members.put key ⟨.table kind inner, span⟩ ms) := by
  have hv : Value.Lawful (.table kind inner) := Value.lawful_table_iff.mpr h.lawful
  have hput := Members.grows_put (v := ⟨.table kind inner, span⟩) hms hfind hv
  refine ⟨hput.lawful, fun m => ?_⟩
  rw [hput.assigns_iff, holds_of_not_isWritten (Value.isWritten_table hkind),
    Value.assigns_table_iff, h.assigns_iff]
  simp only [Members.not_assigns_nil, false_or]

/-- What a change keeps and adds in a table it keeps and adds at the end of a path. -/
theorem grows_within {dotted : Bool} {change : TableKind → Members → Option Members}
    (hchange : ∀ kind ms ms', ms.Lawful → change kind ms = some ms' → Grows New ms ms')
    (h : ms.Lawful) (hwithin : within dotted change path kind ms = some ms') :
    Grows New ms ms' := by
  -- Each table on the way is put back in its place, grown by what the table behind it has grown by.
  induction path generalizing kind ms ms' with
  | nil => exact hchange kind ms ms' h hwithin
  | cons k ks ih =>
    unfold within at hwithin
    split at hwithin
    next hfind =>
      obtain ⟨inner, hinner, rfl⟩ := Option.map_eq_some_iff.mp hwithin
      have hkind : (if dotted then TableKind.dotted else .implied) ≠ .inline := by
        cases dotted <;> decide
      exact (ih Members.lawful_nil hinner).put_table h hfind hkind _
    next kind' members span hfind =>
      split at hwithin
      next => cases hwithin
      next hkind =>
        obtain ⟨inner, hinner, rfl⟩ := Option.map_eq_some_iff.mp hwithin
        have hmembers := Value.lawful_table_iff.mp (Members.value_of_find? h hfind)
        have hgrows := ih hmembers hinner
        have hkind := (not_or.mp hkind).1
        exact Members.grows_set h hfind (Value.lawful_table_iff.mpr hgrows.lawful)
          (Value.isWritten_table hkind) (Value.isWritten_table hkind) (hgrows.table kind' kind')
    next items span hfind =>
      split at hwithin
      next kind' members last hlast =>
        obtain ⟨inner, hinner, rfl⟩ := Option.map_eq_some_iff.mp hwithin
        obtain ⟨items, rfl⟩ := List.getLast?_eq_some_iff.mp hlast
        rw [List.dropLast_concat]
        obtain ⟨hitems, -, hmembers⟩ :=
          Value.lawful_elements_concat.mp (Members.value_of_find? h hfind)
        have hgrows := ih (Value.lawful_table_iff.mp hmembers) hinner
        refine Members.grows_set h hfind (Value.lawful_elements_concat.mpr
          ⟨hitems, ⟨kind', inner, rfl⟩, Value.lawful_table_iff.mpr hgrows.lawful⟩) rfl rfl fun m => ?_
        rw [Value.assigns_elements_concat, Value.assigns_elements_concat,
          hgrows.table kind' kind', or_assoc]
      next => cases hwithin
    next => cases hwithin

theorem grows_addValue (hv : v.value.Lawful) (h : ms.Lawful)
    (hadd : addValue path key v kind ms = some ms') : Grows (Holds (key, v)) ms ms' := by
  refine grows_within (fun kind ms ms' h hchange => ?_) h hadd
  split at hchange
  next => cases hchange
  next =>
    split at hchange
    next => cases hchange
    next hfind =>
      cases hchange
      exact Members.grows_put h hfind hv

theorem grows_openTable (h : ms.Lawful) (hopen : openTable path key span ms = some ms') :
    Grows (fun _ => False) ms ms' := by
  refine grows_within (fun _ ms ms' h hchange => ?_) h hopen
  split at hchange
  next hfind =>
    cases hchange
    exact (grows_refl Members.lawful_nil).put_table h hfind (by decide) _
  next inner _ hfind =>
    cases hchange
    have hinner := Value.lawful_table_iff.mp (Members.value_of_find? h hfind)
    exact Members.grows_put_over h hfind (Value.lawful_table_iff.mpr hinner) rfl rfl
      ((grows_refl hinner).table .header .implied)
  next => cases hchange

theorem grows_openElement (h : ms.Lawful) (hopen : openElement path key span ms = some ms') :
    Grows (fun _ => False) ms ms' := by
  have hfresh : (Value.table .header []).Lawful := Value.lawful_table_iff.mpr Members.lawful_nil
  have hnone (m : Member) : ¬ (Value.table .header []).Assigns m :=
    fun hm => Members.not_assigns_nil (Value.assigns_table_iff.mp hm)
  refine grows_within (fun _ ms ms' h hchange => ?_) h hopen
  split at hchange
  next hfind =>
    cases hchange
    have hempty : Value.Lawful (.array .tables []) := Value.lawful_elements_iff.mpr (by simp)
    have hone := (Value.lawful_elements_concat (i := ⟨.table .header [], span⟩)).mpr
      ⟨hempty, ⟨_, _, rfl⟩, hfresh⟩
    have hput := Members.grows_put (v := ⟨_, span⟩) h hfind hone
    refine ⟨hput.lawful, fun m => (hput.assigns_iff m).trans ?_⟩
    rw [holds_of_not_isWritten rfl, Value.assigns_elements_concat, Value.assigns_elements_iff]
    simp [hnone]
  next items first hfind =>
    cases hchange
    have hitems := Members.value_of_find? h hfind
    refine Members.grows_set h hfind
      (Value.lawful_elements_concat.mpr ⟨hitems, ⟨_, _, rfl⟩, hfresh⟩) rfl rfl fun m => ?_
    rw [Value.assigns_elements_concat]
    simp [hnone]
  next => cases hchange

end Changes

/-- What a statement assigns; headers assign nothing. -/
def Statement.Assigns : Statement → Member → Prop
  | .assignment _ key v, m => Holds (key, v) m
  | .tableHeader _ _ _, _ => False
  | .elementHeader _ _ _, _ => False

/-- The value of an assignment is lawful. -/
def Statement.Lawful : Statement → Prop
  | .assignment _ _ v => v.value.Lawful
  | .tableHeader _ _ _ => True
  | .elementHeader _ _ _ => True

theorem Building.grows_add {b b' : Building} {s : Statement} (hs : s.Lawful) (h : b.root.Lawful)
    (hadd : b.add s = some b') : Grows s.Assigns b.root b'.root := by
  cases s with
  | assignment path key v =>
    obtain ⟨root, hroot, rfl⟩ := Option.map_eq_some_iff.mp hadd
    exact grows_within (fun _ _ _ hms hchange => grows_addValue hs hms hchange) h hroot
  | tableHeader path key span =>
    obtain ⟨root, hroot, rfl⟩ := Option.map_eq_some_iff.mp hadd
    exact grows_openTable h hroot
  | elementHeader path key span =>
    obtain ⟨root, hroot, rfl⟩ := Option.map_eq_some_iff.mp hadd
    exact grows_openElement h hroot

/-- A document built from statements assigns what they do. -/
theorem Building.grows_foldlM {ss : List Statement} {b b' : Building} (hss : ∀ s ∈ ss, s.Lawful)
    (h : b.root.Lawful) (hadd : ss.foldlM Building.add b = some b') :
    Grows (fun m => ∃ s ∈ ss, s.Assigns m) b.root b'.root := by
  induction ss generalizing b with
  | nil =>
    cases hadd
    exact ⟨h, by simp⟩
  | cons s ss ih =>
    obtain ⟨c, hc, hadd⟩ := Option.bind_eq_some_iff.mp hadd
    have hfirst := Building.grows_add (hss s List.mem_cons_self) h hc
    have hrest := ih (fun s hs => hss s (List.mem_cons_of_mem _ hs)) hfirst.lawful hadd
    refine ⟨hrest.lawful, fun m => ?_⟩
    rw [hrest.assigns_iff, hfirst.assigns_iff]
    simp only [List.mem_cons, exists_eq_or_imp, or_assoc]

end LineSpecials.Toml
