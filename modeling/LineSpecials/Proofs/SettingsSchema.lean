import LineSpecials.Proofs.GroupFolds
import LineSpecials.Proofs.EmptyPathLabel

namespace LineSpecials

open Toml (Member Members Value)

namespace Toml.Value

/-- What a group of settings gives for a key: the member of the key in a table, or the item at the
place of the key in an array. -/
inductive Gives (keys : List Text) : Value → Text → Value → Prop
  | member {kind : TableKind} {ms : Members} {m : Member} (hm : m ∈ ms) :
      Gives keys (.table kind ms) m.1.value m.2.value
  | item {kind : ArrayKind} {items : List (Located Value)} {i : Nat} {key : Text}
      {v : Located Value} (hkey : keys[i]? = some key) (hitem : items[i]? = some v) :
      Gives keys (.array kind items) key v.value

/-- A table with no other keys, or an array; what is given for a key is of the type of `type`. -/
structure FitsGroup {β : Type} (keys : List Text) (type : β → Value) (v : Value) : Prop where
  isGroup : (∃ kind ms, v = .table kind ms) ∨ ∃ kind items, v = .array kind items
  given : ∀ key w, v.Gives keys key w → key ∈ keys ∧ ∃ x, w = type x

end Toml.Value

namespace Config

/-- The keys of the two paths, in the order of an array. -/
def pathKeys : List Text := ["actions", "bindings"]

/-- The keys of the table options, in the order of an array. -/
def optionKeys : List Text := ["deny_empty", "echo_bindings"]

/-- The two groups are all there is, and each fits if it is there. -/
structure FitsSchema (root : Members) : Prop where
  known : ∀ m ∈ root, m.1.value = "paths" ∨ m.1.value = "table"
  paths : ∀ m ∈ root, m.1.value = "paths" → m.2.value.FitsGroup pathKeys Value.string
  table : ∀ m ∈ root, m.1.value = "table" → m.2.value.FitsGroup optionKeys Value.boolean

/-- What a document gives for a key of a group. -/
def GivesSetting (root : Members) (group : Text) (keys : List Text) (key : Text) (w : Value) :
    Prop :=
  ∃ m ∈ root, m.1.value = group ∧ m.2.value.Gives keys key w

/-- Every setting is what the document gives for it, or the standard if it gives nothing. -/
structure Reflects (root : Members) (c : Config) : Prop where
  actions : Settles (fun t => GivesSetting root "paths" pathKeys "actions" (.string t))
    "source/ev_actions.cpp" c.paths.actions
  bindings : Settles (fun t => GivesSetting root "paths" pathKeys "bindings" (.string t))
    "source/ev_bindings.cpp" c.paths.bindings
  denyEmpty : Settles (fun b => GivesSetting root "table" optionKeys "deny_empty" (.boolean b))
    false c.table.denyEmpty
  echoBindings : Settles
    (fun b => GivesSetting root "table" optionKeys "echo_bindings" (.boolean b))
    true c.table.echoBindings

/-- The members of a group, those of an array under the keys of their places. -/
def named? (keys : List Text) : Value → Option Members
  | .table _ ms => some ms
  | .array _ items => some ((keys.zip items).map fun m => (⟨m.1, m.2.span⟩, m.2))
  | _ => none

theorem named?_isSome_iff {keys : List Text} {v : Value} : (named? keys v).isSome ↔
    (∃ kind ms, v = .table kind ms) ∨ ∃ kind items, v = .array kind items := by
  cases v <;> simp [named?]

theorem named?_isSome_of_gives {keys : List Text} {v : Value} {key : Text} {w : Value}
    (h : v.Gives keys key w) : (named? keys v).isSome := by
  cases h <;> rfl

theorem gives_iff {keys : List Text} {v : Value} {ms : Members} (h : named? keys v = some ms)
    {key : Text} {w : Value} : v.Gives keys key w ↔ ∃ m ∈ ms, m.1.value = key ∧ m.2.value = w := by
  constructor
  · intro hgives
    cases hgives with
    | member hm =>
      cases h
      exact ⟨_, hm, rfl, rfl⟩
    | @item kind items i key v hkey hitem =>
      cases h
      have hzip : (key, v) ∈ keys.zip items :=
        List.mem_iff_getElem?.mpr ⟨i, List.getElem?_zip_eq_some.mpr ⟨hkey, hitem⟩⟩
      exact ⟨_, List.mem_map_of_mem hzip, rfl, rfl⟩
  · rintro ⟨m, hm, rfl, rfl⟩
    cases v with
    | table kind members => cases h; exact .member hm
    | array kind items =>
      cases h
      obtain ⟨⟨k, i⟩, hmem, rfl⟩ := List.mem_map.mp hm
      obtain ⟨n, hn⟩ := List.mem_iff_getElem?.mp hmem
      obtain ⟨hkey, hitem⟩ := List.getElem?_zip_eq_some.mp hn
      exact .item hkey hitem
    | _ => cases h

theorem distinct_named? {keys : List Text} {v : Value} {ms : Members} (hkeys : keys.Nodup)
    (hv : v.Lawful) (h : named? keys v = some ms) : Distinct ms := by
  cases v with
  | table kind members =>
    cases h
    exact distinct_of_lawful (Toml.Value.lawful_table_iff.mp hv)
  | array kind items =>
    cases h
    intro m hm n hn hkey
    obtain ⟨⟨k, i⟩, hzip, rfl⟩ := List.mem_map.mp hm
    obtain ⟨⟨k', i'⟩, hzip', rfl⟩ := List.mem_map.mp hn
    obtain ⟨a, ha⟩ := List.mem_iff_getElem?.mp hzip
    obtain ⟨b, hb⟩ := List.mem_iff_getElem?.mp hzip'
    obtain ⟨hka, hia⟩ := List.getElem?_zip_eq_some.mp ha
    obtain ⟨hkb, hib⟩ := List.getElem?_zip_eq_some.mp hb
    obtain rfl : k = k' := hkey
    have hab : a = b :=
      (List.getElem?_inj (List.getElem?_eq_some_iff.mp hka).1 hkeys).mp (hka.trans hkb.symm)
    rw [hab, hib] at hia
    rw [Option.some.inj hia]
  | _ => cases h

/-- A key is given one value at most. -/
theorem GivesSetting.eq {root : Members} {group key : Text} {keys : List Text} {w w' : Value}
    (hroot : root.Lawful) (hkeys : keys.Nodup) (h : GivesSetting root group keys key w)
    (h' : GivesSetting root group keys key w') : w = w' := by
  obtain ⟨m, hm, hgroup, hgives⟩ := h
  obtain ⟨n, hn, hgroup', hgives'⟩ := h'
  obtain rfl := hroot.eq_of_key hm hn (hgroup.trans hgroup'.symm)
  obtain ⟨ms, hms⟩ := Option.isSome_iff_exists.mp (named?_isSome_of_gives hgives)
  obtain ⟨a, ha, hkey, rfl⟩ := (gives_iff hms).mp hgives
  obtain ⟨b, hb, hkey', rfl⟩ := (gives_iff hms).mp hgives'
  rw [distinct_named? hkeys (hroot.values m hm) hms a ha b hb (hkey.trans hkey'.symm)]

theorem Reflects.eq {root : Members} {c c' : Config} (hroot : root.Lawful) (h : Reflects root c)
    (h' : Reflects root c') : c = c' := by
  have hpaths : pathKeys.Nodup := by decide
  have hoptions : optionKeys.Nodup := by decide
  have hactions :=
    h.actions.eq (fun _ _ hx hy => Value.string.inj (hx.eq hroot hpaths hy)) h'.actions
  have hbindings :=
    h.bindings.eq (fun _ _ hx hy => Value.string.inj (hx.eq hroot hpaths hy)) h'.bindings
  have hdeny :=
    h.denyEmpty.eq (fun _ _ hx hy => Value.boolean.inj (hx.eq hroot hoptions hy)) h'.denyEmpty
  have hecho :=
    h.echoBindings.eq (fun _ _ hx hy => Value.boolean.inj (hx.eq hroot hoptions hy)) h'.echoBindings
  obtain ⟨⟨actions, bindings⟩, ⟨deny, echo⟩⟩ := c
  obtain ⟨⟨actions', bindings'⟩, ⟨deny', echo'⟩⟩ := c'
  cases hactions
  cases hbindings
  cases hdeny
  cases hecho
  rfl

section Groups

variable {α β : Type} {take : α → Located Text → Located Value → Except Misfit α}
  {k₁ k₂ name : Text} {read : Located Value → Except Misfit β} {type : β → Value}
  {get₁ get₂ : α → β} {standard a : α} {v : Located Value}

/-- A group is read as the members that it names; a date is none. -/
theorem fitGroup_eq_ok_iff (h : ReadsGroup take k₁ k₂ read read get₁ get₂)
    (hdate : dateTimeKey ∉ [k₁, k₂]) :
    fitGroup take [k₁, k₂] name standard v = .ok a ↔
      ∃ ms, named? [k₁, k₂] v.value = some ms ∧
        ms.foldlM (fun a m => take a m.1 m.2) standard = .ok a := by
  unfold fitGroup named?
  cases v.value with
  | table kind ms => simp
  | array kind items => simp [List.foldlM_map]
  | dateTime =>
    simp only [reduceCtorEq, false_and, exists_false, iff_false]
    intro htake
    rcases h.known _ _ _ _ htake with hkey | hkey
    · exact hdate (by simp [← hkey])
    · exact hdate (by simp [← hkey])
  | _ => simp

theorem exists_fitGroup_iff (h : ReadsGroup take k₁ k₂ read read get₁ get₂)
    (hread : ∀ v x, read v = .ok x ↔ v.value = type x) (hdate : dateTimeKey ∉ [k₁, k₂]) :
    (∃ a, fitGroup take [k₁, k₂] name standard v = .ok a) ↔ v.value.FitsGroup [k₁, k₂] type := by
  simp only [fitGroup_eq_ok_iff h hdate]
  constructor
  · rintro ⟨a, ms, hms, hfold⟩
    have hfits := (h.exists_foldlM_iff ms standard).mp ⟨a, hfold⟩
    refine ⟨named?_isSome_iff.mp (by rw [hms]; rfl), fun key w hgives => ?_⟩
    obtain ⟨m, hm, rfl, rfl⟩ := (gives_iff hms).mp hgives
    rcases hfits m hm with ⟨hkey, x, hx⟩ | ⟨hkey, x, hx⟩
    · exact ⟨by simp [hkey], x, (hread m.2 x).mp hx⟩
    · exact ⟨by simp [hkey], x, (hread m.2 x).mp hx⟩
  · rintro ⟨hgroup, hgiven⟩
    obtain ⟨ms, hms⟩ := Option.isSome_iff_exists.mp (named?_isSome_iff.mpr hgroup)
    have hfits : ∀ m ∈ ms, m.1.value = k₁ ∧ (∃ x, read m.2 = .ok x) ∨
        m.1.value = k₂ ∧ ∃ x, read m.2 = .ok x := by
      intro m hm
      obtain ⟨hkey, x, hx⟩ := hgiven _ _ ((gives_iff hms).mpr ⟨m, hm, rfl, rfl⟩)
      have hread := (hread m.2 x).mpr hx
      rcases List.mem_pair.mp hkey with hkey | hkey
      · exact .inl ⟨hkey, x, hread⟩
      · exact .inr ⟨hkey, x, hread⟩
    obtain ⟨a, hfold⟩ := (h.exists_foldlM_iff ms standard).mpr hfits
    exact ⟨a, ms, hms, hfold⟩

theorem settles_fitGroup {k : Text} {get : α → β} (h : ReadsGroup take k₁ k₂ read read get₁ get₂)
    (hfield : SetsField take k read get) (hread : ∀ v x, read v = .ok x ↔ v.value = type x)
    (hdate : dateTimeKey ∉ [k₁, k₂]) (hkeys : [k₁, k₂].Nodup) (hv : v.value.Lawful)
    (hfit : fitGroup take [k₁, k₂] name standard v = .ok a) :
    Settles (fun x => v.value.Gives [k₁, k₂] k (type x)) (get standard) (get a) := by
  obtain ⟨ms, hms, hfold⟩ := (fitGroup_eq_ok_iff h hdate).mp hfit
  refine (hfield.settles (distinct_named? hkeys hv hms) hfold).congr fun x => ?_
  unfold Given
  simp only [gives_iff hms, hread]

/-- A group that the root has settles its settings; without the group they are standard. -/
theorem settles_givesSetting {σ : Type} {readGroup : Located Value → Except Misfit σ}
    {root : Members} {group k : Text} {keys : List Text} {get : σ → β} {p₀ p : σ}
    (hdistinct : Distinct root)
    (hfits : ∀ m ∈ root, m.1.value = group → ∃ p, readGroup m.2 = .ok p)
    (hgroup : ∀ m ∈ root, readGroup m.2 = .ok p →
      Settles (fun x => m.2.value.Gives keys k (type x)) (get p₀) (get p))
    (h : Settles (Given root group readGroup) p₀ p) :
    Settles (fun x => GivesSetting root group keys k (type x)) (get p₀) (get p) := by
  rcases h with ⟨m, hm, hkey, hfit⟩ | ⟨hnone, rfl⟩
  · refine (hgroup m hm hfit).congr fun x => ⟨fun hgives => ⟨m, hm, hkey, hgives⟩, ?_⟩
    rintro ⟨n, hn, hkey', hgives⟩
    obtain rfl := hdistinct n hn m hm (hkey'.trans hkey.symm)
    exact hgives
  · refine .inr ⟨?_, rfl⟩
    rintro x ⟨m, hm, hkey, -⟩
    obtain ⟨p', hp'⟩ := hfits m hm hkey
    exact hnone p' ⟨m, hm, hkey, hp'⟩

end Groups

section Documents

variable {root : Members} {c : Config} {document file message : Text} {span : Option Span}

theorem exists_fitPaths_iff {v : Located Value} :
    (∃ p, fitPaths v = .ok p) ↔ v.value.FitsGroup pathKeys Value.string :=
  exists_fitGroup_iff readsGroup_takePath (fun _ _ => fitPath_eq_ok_iff) (by decide)

theorem exists_fitOptions_iff {v : Located Value} :
    (∃ o, fitOptions v = .ok o) ↔ v.value.FitsGroup optionKeys Value.boolean :=
  exists_fitGroup_iff readsGroup_takeOption (fun _ _ => fitFlag_eq_ok_iff) (by decide)

theorem exists_fit_iff : (∃ c, fit root = .ok c) ↔ FitsSchema root := by
  have hfold := readsGroup_take.exists_foldlM_iff root standard
  simp only [exists_fitPaths_iff, exists_fitOptions_iff] at hfold
  refine Iff.trans hfold ⟨fun h => ⟨fun m hm => ?_, fun m hm hkey => ?_, fun m hm hkey => ?_⟩, ?_⟩
  · exact (h m hm).imp And.left And.left
  · rcases h m hm with ⟨-, hfits⟩ | ⟨hother, -⟩
    · exact hfits
    · exact absurd (hkey.symm.trans hother) (by decide)
  · rcases h m hm with ⟨hother, -⟩ | ⟨-, hfits⟩
    · exact absurd (hkey.symm.trans hother) (by decide)
    · exact hfits
  · rintro h m hm
    rcases h.known m hm with hkey | hkey
    · exact .inl ⟨hkey, h.paths m hm hkey⟩
    · exact .inr ⟨hkey, h.table m hm hkey⟩

theorem reflects_of_fit (hroot : root.Lawful) (h : fit root = .ok c) : Reflects root c := by
  have hschema := exists_fit_iff.mp ⟨c, h⟩
  have hdistinct := distinct_of_lawful hroot
  have hpaths := readsGroup_take.first.settles hdistinct h
  have htable := readsGroup_take.second.settles hdistinct h
  have hfitsPaths : ∀ m ∈ root, m.1.value = "paths" → ∃ p, fitPaths m.2 = .ok p :=
    fun m hm hkey => exists_fitPaths_iff.mpr (hschema.paths m hm hkey)
  have hfitsTable : ∀ m ∈ root, m.1.value = "table" → ∃ o, fitOptions m.2 = .ok o :=
    fun m hm hkey => exists_fitOptions_iff.mpr (hschema.table m hm hkey)
  have hpath {k : Text} {get : SourcePaths → Text} (hfield : SetsField takePath k fitPath get) :=
    settles_givesSetting hdistinct hfitsPaths (fun m hm hfit => settles_fitGroup readsGroup_takePath
      hfield (fun _ _ => fitPath_eq_ok_iff) (by decide) (by decide) (hroot.values m hm) hfit) hpaths
  have hoption {k : Text} {get : TableOptions → Bool}
      (hfield : SetsField takeOption k fitFlag get) :=
    settles_givesSetting hdistinct hfitsTable (fun m hm hfit => settles_fitGroup
      readsGroup_takeOption hfield (fun _ _ => fitFlag_eq_ok_iff) (by decide) (by decide)
      (hroot.values m hm) hfit) htable
  exact ⟨hpath readsGroup_takePath.first, hpath readsGroup_takePath.second,
    hoption readsGroup_takeOption.first, hoption readsGroup_takeOption.second⟩

/-- The failure of settings with an empty path: that of the actions, whatever the other is. -/
def ReportsEmptyPath (document : Text) (c : Config) (message : Text) (span : Option Span) : Prop :=
  c.paths.actions = [] ∧ message = "'actions' path must not be empty" ∧
      span = assignmentSpan document "actions" ∨
    c.paths.actions ≠ [] ∧ c.paths.bindings = [] ∧ message = "'bindings' path must not be empty" ∧
      span = assignmentSpan document "bindings"

theorem checked_eq_ok_iff {c' : Config} : checked document file c = .ok c' ↔
    c = c' ∧ c.paths.actions ≠ [] ∧ c.paths.bindings ≠ [] := by
  unfold checked
  split
  next ha => simp [List.isEmpty_iff.mp ha]
  next ha =>
    split
    next hb => simp [List.isEmpty_iff.mp hb]
    next hb => simp_all

theorem checked_eq_invalid_iff : checked document file c = .error (.invalid file message span) ↔
    ReportsEmptyPath document c message span := by
  unfold checked ReportsEmptyPath invalidKey
  split
  next ha => simp [List.isEmpty_iff.mp ha, eq_comm]
  next ha =>
    have ha : c.paths.actions ≠ [] := by simpa using ha
    split
    next hb => simp [List.isEmpty_iff.mp hb, ha, eq_comm]
    next hb =>
      have hb : c.paths.bindings ≠ [] := by simpa using hb
      simp [ha, hb]

theorem exists_invalid_of_checked {f : Failure} (h : checked document file c = .error f) :
    ∃ message span, f = .invalid file message span := by
  unfold checked at h
  split at h
  next => cases h; exact ⟨_, _, rfl⟩
  next =>
    split at h
    next => cases h; exact ⟨_, _, rfl⟩
    next => cases h

section Readings

variable {parse : Text → Option Members}
  (hlawful : ∀ document root, parse document = some root → root.Lawful)

include hlawful

/-- A document either fails for what it is or says what the settings are, which then are checked. -/
theorem ofReading_cases (document file : Text) :
    (∀ root, parse document = some root → ¬ FitsSchema root) ∧
        (∃ misfit, ofReading parse document file = .error (.malformed file misfit)) ∨
      ∃ root c, parse document = some root ∧ root.Lawful ∧ FitsSchema root ∧
        Reflects root c ∧ ofReading parse document file = checked document file c := by
  unfold ofReading
  cases hparse : parse document with
  | none => exact .inl ⟨fun _ h => (nomatch h), none, rfl⟩
  | some root =>
    have hroot := hlawful document root hparse
    cases hfit : fit root with
    | error m =>
      refine .inl ⟨fun root' h hschema => ?_, some m, by dsimp only; rw [hfit]⟩
      cases h
      obtain ⟨c, hc⟩ := exists_fit_iff.mpr hschema
      rw [hfit] at hc
      cases hc
    | ok c =>
      exact .inr ⟨root, c, rfl, hroot, exists_fit_iff.mp ⟨c, hfit⟩, reflects_of_fit hroot hfit,
        by dsimp only; rw [hfit]⟩

/-- What becomes of a text, whichever way documents are read, as long as a table has a key once. -/
theorem ofReading_outcome (document file : Text) :
    (∀ c, ofReading parse document file = .ok c ↔
        ∃ root, parse document = some root ∧ FitsSchema root ∧ Reflects root c ∧
          c.paths.actions ≠ [] ∧ c.paths.bindings ≠ []) ∧
      ((∃ misfit, ofReading parse document file = .error (.malformed file misfit)) ↔
        ∀ root, parse document = some root → ¬ FitsSchema root) ∧
      (∀ message span, ofReading parse document file = .error (.invalid file message span) ↔
        ∃ root c, parse document = some root ∧ FitsSchema root ∧ Reflects root c ∧
          ReportsEmptyPath document c message span) ∧
      (∀ f, ofReading parse document file = .error f →
        (∃ misfit, f = .malformed file misfit) ∨
          ∃ message span, f = .invalid file message span) := by
  rcases ofReading_cases hlawful document file with
    ⟨hnot, misfit, h⟩ | ⟨root, c, hparse, hroot, hfits, hc, h⟩
  · have hnone : ∀ {root}, parse document = some root → FitsSchema root → False :=
      fun hparse hfits => hnot _ hparse hfits
    rw [h]
    refine ⟨fun c => iff_of_false (fun h => nomatch h) ?_,
      iff_of_true ⟨misfit, rfl⟩ hnot, fun message span => iff_of_false (fun h => nomatch h) ?_,
      fun f hf => ?_⟩
    · rintro ⟨root, hparse, hfits, -⟩
      exact hnone hparse hfits
    · rintro ⟨root, -, hparse, hfits, -⟩
      exact hnone hparse hfits
    · cases hf
      exact .inl ⟨misfit, rfl⟩
  · -- What the document reflects is one, so whatever else reflects it is what was checked.
    have hsame : ∀ {root' c'}, parse document = some root' → Reflects root' c' → c' = c := by
      intro root' c' hparse' hc'
      obtain rfl := Option.some.inj (hparse.symm.trans hparse')
      exact hc'.eq hroot hc
    rw [h]
    refine ⟨fun c' => ?_, iff_of_false ?_ fun hnot => hnot root hparse hfits,
      fun message span => ?_, fun f hf => .inr (exists_invalid_of_checked hf)⟩
    · rw [checked_eq_ok_iff]
      constructor
      · rintro ⟨rfl, hpaths⟩
        exact ⟨root, hparse, hfits, hc, hpaths⟩
      · rintro ⟨root', hparse', -, hc', hpaths⟩
        obtain rfl := hsame hparse' hc'
        exact ⟨rfl, hpaths⟩
    · rintro ⟨misfit, hmalformed⟩
      obtain ⟨message, span, hinvalid⟩ := exists_invalid_of_checked hmalformed
      cases hinvalid
    · rw [checked_eq_invalid_iff]
      constructor
      · intro hreports
        exact ⟨root, c, hparse, hfits, hc, hreports⟩
      · rintro ⟨root', c', hparse', -, hc', hreports⟩
        obtain rfl := hsame hparse' hc'
        exact hreports

end Readings

/-- Settings are read from a text exactly if it is a document that fits the schema and neither path
comes out empty. A text that is no such document is malformed; one that only leaves a path empty is
invalid, and the first such path is reported. -/
theorem ofText_outcome (document file : Text) :
    (∀ c, ofText document file = .ok c ↔
        ∃ root, Toml.parse document = some root ∧ FitsSchema root ∧ Reflects root c ∧
          c.paths.actions ≠ [] ∧ c.paths.bindings ≠ []) ∧
      ((∃ misfit, ofText document file = .error (.malformed file misfit)) ↔
        ∀ root, Toml.parse document = some root → ¬ FitsSchema root) ∧
      (∀ message span, ofText document file = .error (.invalid file message span) ↔
        ∃ root c, Toml.parse document = some root ∧ FitsSchema root ∧ Reflects root c ∧
          ReportsEmptyPath document c message span) ∧
      (∀ f, ofText document file = .error f →
        (∃ misfit, f = .malformed file misfit) ∨
          ∃ message span, f = .invalid file message span) :=
  ofReading_outcome (fun _ _ hparse => (Toml.laid_parse hparse).1) document file

/-- The paths as an array, of which the last item is not looked at, beside a table with options. -/
def arrayAndTable : Text :=
  "paths = ['a.c', 'b.c', 3]\n[table]\ndeny_empty = true\n"

theorem arrayAndTable_outcome :
    ofText arrayAndTable fileName = .ok ⟨⟨"a.c", "b.c"⟩, ⟨true, true⟩⟩ ∧
      ∃ root, Toml.parse arrayAndTable = some root ∧ FitsSchema root ∧
        Reflects root ⟨⟨"a.c", "b.c"⟩, ⟨true, true⟩⟩ := by
  have h : ofText arrayAndTable fileName = .ok ⟨⟨"a.c", "b.c"⟩, ⟨true, true⟩⟩ := by
    decide +kernel
  obtain ⟨root, hparse, hfits, hreflects, -⟩ := ((ofText_outcome arrayAndTable fileName).1 _).mp h
  exact ⟨h, root, hparse, hfits, hreflects⟩

end Documents

end Config

end LineSpecials
