import LineSpecials.Config.Fit
import LineSpecials.Proofs.Toml.Assignments

namespace LineSpecials.Config

open Toml (Member Members Value)

section Folds

variable {α β γ ε : Type} {f : α → β → Except ε α} {field : α → γ} {xs : List β} {x : β} {a b : α}
  {g : γ}

theorem map_eq_ok {e : Except ε α} {g : α → γ} {c : γ} (h : e.map g = .ok c) :
    ∃ a, e = .ok a ∧ g a = c := by
  cases e with
  | error => cases h
  | ok a => cases h; exact ⟨a, rfl, rfl⟩

theorem foldlM_cons_eq_ok (h : (x :: xs).foldlM f a = .ok b) :
    ∃ a', f a x = .ok a' ∧ xs.foldlM f a' = .ok b := by
  rw [List.foldlM_cons] at h
  cases hx : f a x with
  | error e => rw [hx] at h; cases h
  | ok a' => rw [hx] at h; exact ⟨a', rfl, h⟩

/-- Each member of a group that fits was taken in at some point, and then those behind it. -/
theorem exists_taken (h : xs.foldlM f a = .ok b) (hx : x ∈ xs) :
    ∃ a₁ a₂, ∃ after : List β, f a₁ x = .ok a₂ ∧ after.foldlM f a₂ = .ok b ∧
      ∀ y ∈ after, y ∈ xs := by
  induction xs generalizing a with
  | nil => cases hx
  | cons y ys ih =>
    obtain ⟨a', hy, hys⟩ := foldlM_cons_eq_ok h
    rcases List.mem_cons.mp hx with rfl | hx
    · exact ⟨a, a', ys, hy, hys, fun _ => List.mem_cons_of_mem _⟩
    · obtain ⟨a₁, a₂, after, htaken, hrest, hafter⟩ := ih hys hx
      exact ⟨a₁, a₂, after, htaken, hrest, fun z hz => List.mem_cons_of_mem y (hafter z hz)⟩

theorem exists_foldlM_eq_ok (h : ∀ a, ∀ x ∈ xs, ∃ a', f a x = .ok a') (a : α) :
    ∃ b, xs.foldlM f a = .ok b := by
  induction xs generalizing a with
  | nil => exact ⟨a, rfl⟩
  | cons x xs ih =>
    obtain ⟨a', hx⟩ := h a x List.mem_cons_self
    obtain ⟨b, hb⟩ := ih (fun a y hy => h a y (List.mem_cons_of_mem x hy)) a'
    exact ⟨b, by rw [List.foldlM_cons, hx]; exact hb⟩

theorem field_eq_of_kept (h : xs.foldlM f a = .ok b)
    (hkeep : ∀ y ∈ xs, ∀ a₁ a₂, f a₁ y = .ok a₂ → field a₁ = g → field a₂ = g)
    (ha : field a = g) : field b = g := by
  induction xs generalizing a with
  | nil => cases h; exact ha
  | cons y ys ih =>
    obtain ⟨a', hy, h⟩ := foldlM_cons_eq_ok h
    have hkept := hkeep y List.mem_cons_self a a' hy ha
    exact ih h (fun z hz => hkeep z (List.mem_cons_of_mem y hz)) hkept

/-- A field has the value that one member sets if the others keep it. -/
theorem field_eq_of_taken (h : xs.foldlM f a = .ok b) (hx : x ∈ xs)
    (hset : ∀ a₁ a₂, f a₁ x = .ok a₂ → field a₂ = g)
    (hkeep : ∀ y ∈ xs, y ≠ x → ∀ a₁ a₂, f a₁ y = .ok a₂ → field a₂ = field a₁) :
    field b = g := by
  classical
  obtain ⟨a₁, a₂, after, htaken, hrest, hafter⟩ := exists_taken h hx
  refine field_eq_of_kept hrest (fun y hy a₃ a₄ hf ha => ?_) (hset a₁ a₂ htaken)
  by_cases hyx : y = x
  · exact hset a₃ a₄ (hyx ▸ hf)
  · exact (hkeep y (hafter y hy) hyx a₃ a₄ hf).trans ha

end Folds

/-- A setting is what it is given, or else the standard. -/
def Settles {β : Type} (Given : β → Prop) (standard b : β) : Prop :=
  Given b ∨ (∀ x, ¬ Given x) ∧ b = standard

theorem Settles.eq {β : Type} {Given : β → Prop} {standard b b' : β}
    (hgiven : ∀ x y, Given x → Given y → x = y) (h : Settles Given standard b)
    (h' : Settles Given standard b') : b = b' := by
  rcases h with h | ⟨hnone, rfl⟩
  · rcases h' with h' | ⟨hnone, -⟩
    · exact hgiven b b' h h'
    · exact absurd h (hnone b)
  · rcases h' with h' | ⟨-, rfl⟩
    · exact absurd h' (hnone b')
    · rfl

theorem Settles.congr {β : Type} {Given Given' : β → Prop} {standard b : β}
    (h : Settles Given standard b) (hiff : ∀ x, Given x ↔ Given' x) :
    Settles Given' standard b := by
  rcases h with h | ⟨hnone, heq⟩
  · exact .inl ((hiff b).mp h)
  · exact .inr ⟨fun x hx => hnone x ((hiff x).mpr hx), heq⟩

section Groups

variable {α β γ : Type} {take : α → Located Text → Located Value → Except Misfit α} {k k₁ k₂ : Text}
  {read : Located Value → Except Misfit β} {get : α → β} {read₁ : Located Value → Except Misfit β}
  {read₂ : Located Value → Except Misfit γ} {get₁ : α → β} {get₂ : α → γ} {a b : α} {ms : Members}
  {m : Member}

/-- Members of the key set a field to what they read as; other members keep it. -/
structure SetsField (take : α → Located Text → Located Value → Except Misfit α) (k : Text)
    (read : Located Value → Except Misfit β) (get : α → β) : Prop where
  own : ∀ a key v, key.value = k → (take a key v).map get = read v
  other : ∀ a a' key v, key.value ≠ k → take a key v = .ok a' → get a' = get a

/-- Members have one of two keys, and each sets a field of its own. -/
structure ReadsGroup (take : α → Located Text → Located Value → Except Misfit α) (k₁ k₂ : Text)
    (read₁ : Located Value → Except Misfit β) (read₂ : Located Value → Except Misfit γ)
    (get₁ : α → β) (get₂ : α → γ) : Prop where
  first : SetsField take k₁ read₁ get₁
  second : SetsField take k₂ read₂ get₂
  known : ∀ a a' key v, take a key v = .ok a' → key.value = k₁ ∨ key.value = k₂

/-- What the member of a key reads as. -/
def Given (ms : Members) (k : Text) (read : Located Value → Except Misfit β) (x : β) : Prop :=
  ∃ m ∈ ms, m.1.value = k ∧ read m.2 = .ok x

/-- No key is there twice. -/
def Distinct (ms : Members) : Prop := ∀ m ∈ ms, ∀ n ∈ ms, m.1.value = n.1.value → m = n

theorem distinct_of_lawful (h : ms.Lawful) : Distinct ms := fun _ hm _ hn => h.eq_of_key hm hn

theorem SetsField.read_eq (h : SetsField take k read get) {key : Located Text} {v : Located Value}
    (hkey : key.value = k) (htake : take a key v = .ok b) : read v = .ok (get b) := by
  rw [← h.own a key v hkey, htake]
  rfl

theorem SetsField.exists_take (h : SetsField take k read get) {key : Located Text}
    {v : Located Value} {x : β} (hkey : key.value = k) (hread : read v = .ok x) (a : α) :
    ∃ a', take a key v = .ok a' := by
  obtain ⟨a', htake, -⟩ := map_eq_ok ((h.own a key v hkey).trans hread)
  exact ⟨a', htake⟩

/-- The member of the key reads as what the field has in the end. -/
theorem SetsField.read_of_mem (h : SetsField take k read get) (hdistinct : Distinct ms)
    (hfold : ms.foldlM (fun a m => take a m.1 m.2) a = .ok b) (hm : m ∈ ms)
    (hkey : m.1.value = k) : read m.2 = .ok (get b) := by
  obtain ⟨a₁, a₂, -, htaken, -⟩ := exists_taken hfold hm
  have hread := h.read_eq hkey htaken
  have hfield : get b = get a₂ := by
    refine field_eq_of_taken hfold hm (fun a₃ a₄ htake => ?_) (fun n hn hne a₃ a₄ htake => ?_)
    · exact Except.ok.inj ((h.read_eq hkey htake).symm.trans hread)
    · refine h.other a₃ a₄ n.1 n.2 (fun hsame => hne ?_) htake
      exact hdistinct n hn m hm (hsame.trans hkey.symm)
  rw [hfield, hread]

theorem SetsField.settles (h : SetsField take k read get) (hdistinct : Distinct ms)
    (hfold : ms.foldlM (fun a m => take a m.1 m.2) a = .ok b) :
    Settles (Given ms k read) (get a) (get b) := by
  by_cases hany : ∃ m ∈ ms, m.1.value = k
  · obtain ⟨m, hm, hkey⟩ := hany
    exact .inl ⟨m, hm, hkey, h.read_of_mem hdistinct hfold hm hkey⟩
  · right
    refine ⟨fun x ⟨m, hm, hkey, _⟩ => hany ⟨m, hm, hkey⟩, ?_⟩
    refine field_eq_of_kept hfold (fun n hn a₁ a₂ htake hkept => ?_) rfl
    exact (h.other a₁ a₂ n.1 n.2 (fun hkey => hany ⟨n, hn, hkey⟩) htake).trans hkept

theorem ReadsGroup.reads_of_take (h : ReadsGroup take k₁ k₂ read₁ read₂ get₁ get₂)
    {key : Located Text} {v : Located Value} (htake : take a key v = .ok b) :
    key.value = k₁ ∧ read₁ v = .ok (get₁ b) ∨ key.value = k₂ ∧ read₂ v = .ok (get₂ b) := by
  rcases h.known a b key v htake with hkey | hkey
  · exact .inl ⟨hkey, h.first.read_eq hkey htake⟩
  · exact .inr ⟨hkey, h.second.read_eq hkey htake⟩

/-- A group is read if and only if each member has one of the keys and a value for its field. -/
theorem ReadsGroup.exists_foldlM_iff (h : ReadsGroup take k₁ k₂ read₁ read₂ get₁ get₂)
    (ms : Members) (a : α) : (∃ b, ms.foldlM (fun a m => take a m.1 m.2) a = .ok b) ↔
      ∀ m ∈ ms, m.1.value = k₁ ∧ (∃ x, read₁ m.2 = .ok x) ∨
        m.1.value = k₂ ∧ ∃ y, read₂ m.2 = .ok y := by
  constructor
  · rintro ⟨b, hfold⟩ m hm
    obtain ⟨a₁, a₂, -, htaken, -⟩ := exists_taken hfold hm
    rcases h.reads_of_take htaken with ⟨hkey, hread⟩ | ⟨hkey, hread⟩
    · exact .inl ⟨hkey, _, hread⟩
    · exact .inr ⟨hkey, _, hread⟩
  · intro hfits
    refine exists_foldlM_eq_ok (fun a m hm => ?_) a
    rcases hfits m hm with ⟨hkey, x, hread⟩ | ⟨hkey, y, hread⟩
    · exact h.first.exists_take hkey hread a
    · exact h.second.exists_take hkey hread a

/-- A reader that tries one key after the other reads a group. -/
theorem ReadsGroup.of_take_eq {set₁ : α → β → α} {set₂ : α → γ → α} {misfit : Located Text → Misfit}
    (hne : k₁ ≠ k₂)
    (htake : ∀ a key v, take a key v =
      if key.value = k₁ then (read₁ v).map (set₁ a)
      else if key.value = k₂ then (read₂ v).map (set₂ a) else .error (misfit key))
    (hset₁ : ∀ a x, get₁ (set₁ a x) = x ∧ get₂ (set₁ a x) = get₂ a)
    (hset₂ : ∀ a y, get₂ (set₂ a y) = y ∧ get₁ (set₂ a y) = get₁ a) :
    ReadsGroup take k₁ k₂ read₁ read₂ get₁ get₂ := by
  refine ⟨⟨fun a key v hkey => ?_, fun a a' key v hkey h => ?_⟩,
    ⟨fun a key v hkey => ?_, fun a a' key v hkey h => ?_⟩, fun a a' key v h => ?_⟩
  · rw [htake, if_pos hkey]
    cases read₁ v with
    | error => rfl
    | ok x => exact congrArg Except.ok (hset₁ a x).1
  · rw [htake, if_neg hkey] at h
    split at h
    next =>
      obtain ⟨y, -, rfl⟩ := map_eq_ok h
      exact (hset₂ a y).2
    next => cases h
  · rw [htake, if_neg (hkey ▸ hne.symm), if_pos hkey]
    cases read₂ v with
    | error => rfl
    | ok y => exact congrArg Except.ok (hset₂ a y).1
  · rw [htake] at h
    split at h
    next =>
      obtain ⟨x, -, rfl⟩ := map_eq_ok h
      exact (hset₁ a x).2
    next => cases h
  · rw [htake] at h
    split at h
    next hkey => exact .inl hkey
    next =>
      split at h
      next hkey => exact .inr hkey
      next => cases h

end Groups

theorem readsGroup_takePath :
    ReadsGroup takePath "actions" "bindings" fitPath fitPath (·.actions) (·.bindings) :=
  .of_take_eq (by decide) (fun _ _ _ => rfl) (fun _ _ => ⟨rfl, rfl⟩) fun _ _ => ⟨rfl, rfl⟩

theorem readsGroup_takeOption :
    ReadsGroup takeOption "deny_empty" "echo_bindings" fitFlag fitFlag (·.denyEmpty)
      (·.echoBindings) :=
  .of_take_eq (by decide) (fun _ _ _ => rfl) (fun _ _ => ⟨rfl, rfl⟩) fun _ _ => ⟨rfl, rfl⟩

theorem readsGroup_take :
    ReadsGroup take "paths" "table" fitPaths fitOptions (·.paths) (·.table) :=
  .of_take_eq (by decide) (fun _ _ _ => rfl) (fun _ _ => ⟨rfl, rfl⟩) fun _ _ => ⟨rfl, rfl⟩

theorem fitPath_eq_ok_iff {v : Located Value} {t : Text} :
    fitPath v = .ok t ↔ v.value = .string t := by
  unfold fitPath
  cases v.value <;> simp

theorem fitFlag_eq_ok_iff {v : Located Value} {b : Bool} :
    fitFlag v = .ok b ↔ v.value = .boolean b := by
  unfold fitFlag
  cases v.value <;> simp

end LineSpecials.Config
