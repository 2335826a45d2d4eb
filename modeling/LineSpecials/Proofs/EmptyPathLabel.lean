import LineSpecials.Proofs.GroupFolds
import LineSpecials.Proofs.Toml.Layout

namespace LineSpecials

namespace Toml.Value

/-- The members of a table. -/
def members : Value → Members
  | .table _ ms => ms
  | _ => []

/-- The text of a string. -/
def text? : Value → Option Text
  | .string t => some t
  | _ => none

theorem isLeaf_of_text? {v : Value} {t : Text} (h : v.text? = some t) : v.isLeaf := by
  cases v <;> first | rfl | cases h

theorem lawful_members {v : Value} (h : v.Lawful) : v.members.Lawful := by
  cases v with
  | table kind ms => exact lawful_table_iff.mp h
  | _ => exact Members.lawful_nil

end Toml.Value

open Toml (Member Members Value)

/-- The document gives a path an empty value, and the key of that value stands at the place. -/
def EmptyPathAt (root : Members) (key : Text) (span : Span) : Prop :=
  ∃ n ∈ root, n.1.value = "paths" ∧
    ∃ m ∈ n.2.value.members, m.1 = ⟨key, span⟩ ∧ m.2.value.text? = some []

instance (root : Members) (key : Text) (span : Span) : Decidable (EmptyPathAt root key span) :=
  inferInstanceAs (Decidable (∃ n ∈ root, n.1.value = "paths" ∧
    ∃ m ∈ n.2.value.members, m.1 = ⟨key, span⟩ ∧ m.2.value.text? = some []))

/-- A place inside of an assigned value that is no table. -/
def InsideValue (root : Members) (n : Nat) : Prop :=
  ∃ m, root.Assigns m ∧ m.2.value.isLeaf ∧ m.2.span.Covers n

theorem EmptyPathAt.assigns {root : Members} {key : Text} {span : Span}
    (h : EmptyPathAt root key span) :
    ∃ m, root.Assigns m ∧ m.1.span = span := by
  obtain ⟨n, hn, -, m, hm, hplace, htext⟩ := h
  have hwritten := Value.isWritten_of_isLeaf (Value.isLeaf_of_text? htext)
  refine ⟨m, ⟨n, hn, .inr ?_⟩, by rw [hplace]⟩
  generalize n.2.value = v at hm
  cases v with
  | table kind ms => exact .written hm hwritten
  | _ => cases hm

namespace Config

/-- The keys of the two paths. -/
def IsPathKey (key : Text) : Prop := key = "actions" ∨ key = "bindings"

/-- What is said of the empty path of a key. -/
def SaysEmpty (message key : Text) : Prop :=
  key = "actions" ∧ message = "'actions' path must not be empty" ∨
    key = "bindings" ∧ message = "'bindings' path must not be empty"

/-- The path that a key sets. -/
def pathOf (key : Text) (p : SourcePaths) : Text :=
  if key = "actions" then p.actions else p.bindings

theorem IsPathKey.isBareKey {key : Text} (h : IsPathKey key) : Toml.IsBareKey key := by
  rcases h with rfl | rfl
  · exact ⟨by decide, List.all_eq_true.mp (by decide : ("actions".toList).all Toml.isKeyChar)⟩
  · exact ⟨by decide, List.all_eq_true.mp (by decide : ("bindings".toList).all Toml.isKeyChar)⟩

section Members

variable {key : Located Text} {v : Located Value} {root : Members} {n m : Member}

theorem isLeaf_of_takePath {p p' : SourcePaths} (h : takePath p key v = .ok p') :
    v.value.isLeaf := by
  rcases readsGroup_takePath.reads_of_take h with ⟨-, hread⟩ | ⟨-, hread⟩ <;>
    rw [fitPath_eq_ok_iff.mp hread] <;> rfl

theorem isLeaf_of_takeOption {o o' : TableOptions} (h : takeOption o key v = .ok o') :
    v.value.isLeaf := by
  rcases readsGroup_takeOption.reads_of_take h with ⟨-, hread⟩ | ⟨-, hread⟩ <;>
    rw [fitFlag_eq_ok_iff.mp hread] <;> rfl

theorem not_isPathKey_of_take {c c' : Config} (h : take c key v = .ok c') :
    ¬ IsPathKey key.value := by
  unfold IsPathKey
  rcases readsGroup_take.reads_of_take h with ⟨hkey, -⟩ | ⟨hkey, -⟩ <;> rw [hkey] <;> decide

theorem not_isPathKey_of_takeOption {o o' : TableOptions} (h : takeOption o key v = .ok o') :
    ¬ IsPathKey key.value := by
  unfold IsPathKey
  rcases readsGroup_takeOption.reads_of_take h with ⟨hkey, -⟩ | ⟨hkey, -⟩ <;> rw [hkey] <;> decide

/-- Of the members of paths that fit, the one of a path has its text. -/
theorem text?_of_takePaths {ms : Members} {p₀ p : SourcePaths} (hms : ms.Lawful)
    (h : ms.foldlM (fun p m => takePath p m.1 m.2) p₀ = .ok p) (hm : m ∈ ms)
    (hkey : IsPathKey m.1.value) : m.2.value.text? = some (pathOf m.1.value p) := by
  have hdistinct := distinct_of_lawful hms
  rcases hkey with hkey | hkey
  · have hread := readsGroup_takePath.first.read_of_mem hdistinct h hm hkey
    rw [fitPath_eq_ok_iff.mp hread, hkey]
    rfl
  · have hread := readsGroup_takePath.second.read_of_mem hdistinct h hm hkey
    rw [fitPath_eq_ok_iff.mp hread, hkey]
    rfl

/-- Of a group that fits, every assignment is a member of its own and no table. -/
theorem mem_members_of_fitGroup {α : Type}
    {take : α → Located Text → Located Value → Except Misfit α} {k : Text} {keys : List Text}
    {name : Text} {standard a : α} (h : fitGroup take (k :: keys) name standard v = .ok a)
    (hv : v.value.Lawful) (hleaf : ∀ {a a' key v}, take a key v = .ok a' → v.value.isLeaf)
    (hm : v.value.Assigns m) : m ∈ v.value.members ∧
      v.value.members.foldlM (fun a m => take a m.1 m.2) standard = .ok a := by
  obtain ⟨value, place⟩ := v
  unfold fitGroup at h
  cases value with
  | table kind ms =>
    obtain ⟨n, hn, hholds⟩ := Value.assigns_table_iff.mp hm
    obtain ⟨a₁, a₂, _, htaken, -⟩ := exists_taken h hn
    have hleaf := hleaf htaken
    rw [Toml.holds_of_isWritten (Value.isWritten_of_isLeaf hleaf)] at hholds
    rcases hholds with rfl | hinner
    · exact ⟨hn, h⟩
    · exact absurd hinner (Value.not_assigns_of_isLeaf hleaf)
  | array kind items =>
    cases hm with
    | element hi _ =>
      -- The first value of the group is a table, which does not fit.
      cases items with
      | nil => cases hi
      | cons first items =>
        obtain ⟨a', htaken, -⟩ := foldlM_cons_eq_ok h
        obtain ⟨⟨kind, ms, hfirst⟩, -⟩ :=
          Value.lawful_elements_iff.mp hv first List.mem_cons_self
        have hleaf := hleaf htaken
        rw [hfirst] at hleaf
        cases hleaf
  | _ => cases hm

/-- In settings that fit, the key of a path is assigned in the table of paths only, and the path is
what it is assigned there. -/
theorem path_of_fit {c : Config} (hroot : root.Lawful) (h : fit root = .ok c)
    (hkey : IsPathKey m.1.value) (hm : root.Assigns m) :
    ∃ n ∈ root, n.1.value = "paths" ∧ m ∈ n.2.value.members ∧
      m.2.value.text? = some (pathOf m.1.value c.paths) := by
  obtain ⟨n, hn, hholds⟩ := hm
  have hlawful := hroot.values n hn
  obtain ⟨c₁, c₂, -, htaken, -⟩ := exists_taken h hn
  rcases hholds with ⟨rfl, -⟩ | hm
  · exact absurd hkey (not_isPathKey_of_take htaken)
  rcases readsGroup_take.reads_of_take htaken with ⟨hname, -⟩ | ⟨-, hfit⟩
  · have hfit := readsGroup_take.first.read_of_mem (distinct_of_lawful hroot) h hn hname
    obtain ⟨hmem, hfold⟩ := mem_members_of_fitGroup hfit hlawful isLeaf_of_takePath hm
    have htext := text?_of_takePaths (Value.lawful_members hlawful) hfold hmem hkey
    exact ⟨n, hn, hname, hmem, htext⟩
  · obtain ⟨hmem, hfold⟩ := mem_members_of_fitGroup hfit hlawful isLeaf_of_takeOption hm
    obtain ⟨o₁, o₂, -, htake, -⟩ := exists_taken hfold hmem
    exact absurd hkey (not_isPathKey_of_takeOption htake)

end Members

section Labels

variable {document file reported message : Text} {span : Span}

theorem checked_eq_error {c : Config}
    (h : checked document file c = .error (.invalid reported message (some span))) :
    ∃ key, SaysEmpty message key ∧ pathOf key c.paths = [] ∧
      assignmentSpan document key = some span := by
  unfold checked at h
  split at h
  next hempty =>
    obtain ⟨-, hmessage, hspan⟩ := Failure.invalid.inj (Except.error.inj h)
    exact ⟨"actions", .inl ⟨rfl, hmessage.symm⟩, List.isEmpty_iff.mp hempty, hspan⟩
  next =>
    split at h
    next hempty =>
      obtain ⟨-, hmessage, hspan⟩ := Failure.invalid.inj (Except.error.inj h)
      exact ⟨"bindings", .inr ⟨rfl, hmessage.symm⟩, List.isEmpty_iff.mp hempty, hspan⟩
    next => cases h

/-- The label of an empty path is at the key that has the empty value if and only if no value that
is not a table has the label inside. -/
theorem label_at_key_iff
    (h : ofText document file = .error (.invalid reported message (some span))) :
    ∃ root key, Toml.parse document = some root ∧ SaysEmpty message key ∧
      (EmptyPathAt root key span ↔ ¬ InsideValue root span.start) := by
  unfold ofText ofReading at h
  split at h
  next => cases h
  next root hparse =>
    split at h
    next => cases h
    next c hfit =>
      obtain ⟨key, hmessage, hempty, hspan⟩ := checked_eq_error h
      obtain ⟨hroot, hlaid⟩ := Toml.laid_parse hparse
      have hkey : IsPathKey key := hmessage.imp And.left And.left
      refine ⟨root, key, hparse, hmessage, ?_, fun hinside => ?_⟩
      · intro hat
        rintro ⟨m', hm', hleaf, hcovers⟩
        obtain ⟨m, hm, hplace⟩ := hat.assigns
        exact hlaid.apart m m' hm hm' hleaf (hplace ▸ hcovers)
      · obtain ⟨u, hu, rfl⟩ := assignmentSpan_eq_some hspan
        rcases hlaid.found hkey.isBareKey hu with hnil | ⟨m, hm, hplace⟩
        · obtain ⟨w, hw, -⟩ := hnil.begins
          rw [List.suffix_nil.mp hnil.suffix] at hw
          exact absurd (List.append_eq_nil_iff.mp hw.symm).1 hkey.isBareKey.ne_nil
        · have hplace := hplace.resolve_right fun hin => hinside ⟨m, hm, hin⟩
          have hmkey : m.1.value = key := by rw [hplace]
          obtain ⟨n, hn, hname, hmem, htext⟩ := path_of_fit hroot hfit (hmkey ▸ hkey) hm
          rw [hmkey, hempty] at htext
          exact ⟨n, hn, hname, m, hmem, hplace, htext⟩

/-- A document with an empty path below a comment and a string that name it too. -/
def emptyActions : Text :=
  "# actions = x\n[paths]\nbindings = 'actions = y'\n\tactions = ''\n"

/-- A document in which a line of a string reads like the assignment of the empty path. -/
def emptyActionsBelowString : Text :=
  "[paths]\nbindings = \"\"\"\nactions = 1\"\"\"\nactions = \"\"\n"

/-- The failure of a document. -/
def failure? (document : Text) : Option Failure :=
  match ofText document fileName with
  | .error f => some f
  | .ok _ => none

theorem failure?_eq_some {f : Failure} (h : failure? document = some f) :
    ofText document fileName = .error f := by
  unfold failure? at h
  split at h
  next hf => cases h; exact hf
  next => cases h

theorem emptyActions_label :
    ofText emptyActions fileName =
        .error (.invalid fileName "'actions' path must not be empty" (some ⟨48, 7⟩)) ∧
      ∃ root key, Toml.parse emptyActions = some root ∧
        SaysEmpty "'actions' path must not be empty" key ∧
        (EmptyPathAt root key ⟨48, 7⟩ ↔ ¬ InsideValue root 48) := by
  have h : ofText emptyActions fileName =
      .error (.invalid fileName "'actions' path must not be empty" (some ⟨48, 7⟩)) :=
    failure?_eq_some (by decide +kernel)
  exact ⟨h, label_at_key_iff h⟩

/-- The label is in the string, while the key with the empty value stands behind it. -/
theorem emptyActionsBelowString_label :
    ofText emptyActionsBelowString fileName =
        .error (.invalid fileName "'actions' path must not be empty" (some ⟨23, 7⟩)) ∧
      ∃ root, Toml.parse emptyActionsBelowString = some root ∧
        EmptyPathAt root "actions" ⟨38, 7⟩ ∧ ¬ EmptyPathAt root "actions" ⟨23, 7⟩ := by
  refine ⟨failure?_eq_some (by decide +kernel), ?_⟩
  have h : (Toml.parse emptyActionsBelowString).any fun root =>
      EmptyPathAt root "actions" ⟨38, 7⟩ ∧ ¬ EmptyPathAt root "actions" ⟨23, 7⟩ := by
    decide +kernel
  obtain ⟨root, hparse, hroot⟩ := (Option.any_eq_true _ _).mp h
  exact ⟨root, hparse, of_decide_eq_true hroot⟩

end Labels

end Config

end LineSpecials
