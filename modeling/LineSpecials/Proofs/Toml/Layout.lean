import LineSpecials.Proofs.Toml.Assignments
import LineSpecials.Proofs.Toml.Reading

namespace LineSpecials

/-- A place is one of those that a stretch takes up. -/
def Span.Covers (s : Span) (n : Nat) : Prop := s.start ≤ n ∧ n < s.start + s.length

namespace Toml

open Config (Ahead)

theorem byteLength_le_of_suffix {s t : Text} (h : s <:+ t) : s.byteLength ≤ t.byteLength := by
  obtain ⟨w, rfl⟩ := h
  rw [Text.byteLength_append]
  omega

/-- The places in a text of the keys and values of some members, when `rest` is left of it: `size`
bytes are there up to the end of the document. -/
structure Laid (size : Nat) (t rest : Text) (P : Member → Prop) : Prop where
  suffix : rest <:+ t
  keys : ∀ m, P m →
    size - t.byteLength ≤ m.1.span.start ∧ m.1.span.start < size - rest.byteLength
  values : ∀ m, P m → size - t.byteLength ≤ m.2.span.start ∧
    m.2.span.start + m.2.span.length ≤ size - rest.byteLength
  apart : ∀ m n, P m → P n → n.2.value.isLeaf → ¬ n.2.span.Covers m.1.span.start
  found : ∀ {key u : Text}, IsBareKey key → Ahead key t u → Ahead key rest u ∨
    ∃ m, P m ∧ (m.1 = ⟨key, size - u.byteLength, key.byteLength⟩ ∨
      m.2.value.isLeaf ∧ m.2.span.Covers (size - u.byteLength))

/-- What is read of a value. -/
structure ReadsValue (size : Nat) (t rest : Text) (v : Value) : Prop where
  suffix : rest <:+ t
  written : v.isWritten
  lawful : v.Lawful
  inner : v.isLeaf = false → Laid size t rest v.Assigns

variable {size : Nat} {t rest mid : Text} {P Q : Member → Prop}

namespace Laid

theorem congr (h : Laid size t rest P) (hP : ∀ m, P m ↔ Q m) : Laid size t rest Q :=
  (funext fun m => propext (hP m) : P = Q) ▸ h

/-- A part of the text that assigns nothing. -/
theorem of_skips (h : Skips t rest) : Laid size t rest fun _ => False :=
  ⟨h.suffix, fun _ => False.elim, fun _ => False.elim, fun _ _ => False.elim,
    fun hkey hu => .inl (h.ahead hkey hu)⟩

theorem append (h : Laid size t mid P) (h' : Laid size mid rest Q) :
    Laid size t rest fun m => P m ∨ Q m := by
  have hmid := byteLength_le_of_suffix h.suffix
  have hrest := byteLength_le_of_suffix h'.suffix
  refine ⟨h'.suffix.trans h.suffix, ?keys, ?values, ?apart, ?found⟩
  case keys =>
    rintro m (hm | hm)
    · have := h.keys m hm
      omega
    · have := h'.keys m hm
      omega
  case values =>
    rintro m (hm | hm)
    · have := h.values m hm
      omega
    · have := h'.values m hm
      omega
  case apart =>
    -- What the first part assigns lies before `mid`, and what the second assigns behind it.
    rintro m n (hm | hm) (hn | hn) hleaf
    · exact h.apart m n hm hn hleaf
    · have := h.keys m hm
      have := h'.values n hn
      unfold Span.Covers
      omega
    · have := h'.keys m hm
      have := h.values n hn
      unfold Span.Covers
      omega
    · exact h'.apart m n hm hn hleaf
  case found =>
    intro key u hkey hu
    rcases h.found hkey hu with hu | ⟨m, hm, hplace⟩
    · rcases h'.found hkey hu with hu | ⟨m, hm, hplace⟩
      · exact .inl hu
      · exact .inr ⟨m, .inr hm, hplace⟩
    · exact .inr ⟨m, .inl hm, hplace⟩

theorem skip_append (h : Skips t mid) (h' : Laid size mid rest P) : Laid size t rest P :=
  (append (of_skips h) h').congr fun _ => by simp

theorem append_skip (h : Laid size t mid P) (h' : Skips mid rest) : Laid size t rest P :=
  (append h (of_skips h')).congr fun _ => by simp

end Laid

section Scalars

variable {v : Value}

theorem isLeaf_of_based? {base : Nat} (h : based? base t = some v) : v.isLeaf := by
  unfold based? at h
  split at h
  next =>
    obtain ⟨digits, -, rfl⟩ := Option.map_eq_some_iff.mp h
    split <;> rfl
  next => cases h

theorem isLeaf_of_decimal? {negative : Bool} (h : decimal? negative t = some v) : v.isLeaf := by
  unfold decimal? at h
  dsimp only at h
  split at h
  next => cases h
  next =>
    split at h
    next =>
      obtain ⟨digits, -, h⟩ := Option.bind_eq_some_iff.mp h
      obtain ⟨f, -, h⟩ := Option.bind_eq_some_iff.mp h
      cases h
      rfl
    next =>
      split at h
      next =>
        obtain ⟨digits, -, rfl⟩ := Option.map_eq_some_iff.mp h
        split <;> rfl
      next => cases h

theorem isLeaf_of_scalarValue? (h : scalarValue? t = some v) : v.isLeaf := by
  unfold scalarValue? at h
  dsimp only at h
  iterate 4
    split at h
    next => cases h; rfl
  split at h
  next => exact isLeaf_of_based? h
  next => exact isLeaf_of_based? h
  next => exact isLeaf_of_based? h
  next =>
    have hdate {r : Text} (h : (if isDateTime r then some Value.dateTime else none) = some v) :
        v.isLeaf := by
      split at h
      next => cases h; rfl
      next => cases h
    split at h
    next => exact hdate h
    next => exact hdate h
    next => exact isLeaf_of_decimal? h

end Scalars

section Values

variable {key u : Text} {v : Located Value}

/-- A line inside of a value that is no table begins within its stretch. -/
theorem covers_of_ahead (h : rest <:+ t) (ht : t.byteLength ≤ size) (hu : Ahead key t u) :
    Ahead key rest u ∨ (spanBetween size t rest).Covers (size - u.byteLength) := by
  have hlen := byteLength_le_of_suffix hu.suffix
  obtain ⟨w, rfl⟩ := h
  refine hu.of_append.imp_right fun ⟨x, hx, hux⟩ => ?_
  have hlt : rest.byteLength < u.byteLength := by
    obtain ⟨c, x, rfl⟩ := List.exists_cons_of_ne_nil hx
    have hc := c.utf8Size_pos
    rw [hux, Text.byteLength_append, Text.byteLength_cons]
    omega
  unfold Span.Covers spanBetween
  dsimp only
  omega

theorem laid_assignment {path : List (Located Text)} {k : Located Text} {start : Text}
    (ht : t.byteLength ≤ size) (hk : dottedKey size t = some (path, k, mid))
    (hskip : Skips mid start) (hv : ReadsValue size start rest v.value)
    (hspan : v.span = spanBetween size start rest) : Laid size t rest (Holds (k, v)) := by
  have hline := readsLine_keyParts hk
  have hkey := start_keyParts ht hk
  have hmid := byteLength_le_of_suffix hline.sameLine.suffix
  have hstart := byteLength_le_of_suffix hskip.suffix
  have hrest := byteLength_le_of_suffix hv.suffix
  have hvstart : v.span.start = size - start.byteLength := by rw [hspan]; rfl
  have hvlength : v.span.length = start.byteLength - rest.byteLength := by rw [hspan]; rfl
  have hinner {m : Member} (hm : v.value.Assigns m) : v.value.isLeaf = false := by
    by_contra hleaf
    exact Value.not_assigns_of_isLeaf (by simpa using hleaf) hm
  refine Laid.congr (P := fun m => m = (k, v) ∨ v.value.Assigns m) ?_
    fun m => (holds_of_isWritten hv.written m).symm
  refine ⟨hv.suffix.trans (hskip.suffix.trans hline.sameLine.suffix), ?keys, ?values, ?apart,
    ?found⟩
  case keys =>
    rintro m (rfl | hm)
    · dsimp only
      omega
    · have := (hv.inner (hinner hm)).keys m hm
      omega
  case values =>
    rintro m (rfl | hm)
    · dsimp only
      omega
    · have := (hv.inner (hinner hm)).values m hm
      omega
  case apart =>
    rintro m n (rfl | hm) (rfl | hn) hleaf
    · unfold Span.Covers
      dsimp only
      omega
    · have := (hv.inner (hinner hn)).values n hn
      unfold Span.Covers
      dsimp only
      omega
    · rw [hinner hm] at hleaf
      cases hleaf
    · exact (hv.inner (hinner hm)).apart m n hm hn hleaf
  case found =>
    intro key u hbare hu
    rcases hline.ahead hu with rfl | hu
    · exact .inr ⟨(k, v), .inl rfl, .inl (keyParts_of_begins hbare hu.begins hk).2⟩
    · have hu := hskip.ahead hbare hu
      cases hleaf : v.value.isLeaf with
      | false =>
        -- Only a table in braces is no leaf here, and it tells its own places.
        refine ((hv.inner hleaf).found hbare hu).imp_right ?_
        exact fun ⟨m, hm, hplace⟩ => ⟨m, .inr hm, hplace⟩
      | true =>
        have hplace : Ahead key rest u ∨
            (spanBetween size start rest).Covers (size - u.byteLength) :=
          covers_of_ahead hv.suffix (by omega) hu
        refine hplace.imp_right fun hcovers => ?_
        exact ⟨(k, v), .inl rfl, .inr ⟨hleaf, hspan ▸ hcovers⟩⟩

/-- What is read of the values in the brackets of a document, when `fuel` is there. -/
structure ReadsValues (size fuel : Nat) : Prop where
  value : ∀ {depth : Nat} {t rest : Text} {v : Located Value}, t.byteLength ≤ size →
    value size fuel depth t = some (v, rest) →
    ReadsValue size t rest v.value ∧ v.span = spanBetween size t rest
  bareValue : ∀ {depth : Nat} {t rest : Text} {v : Value}, t.byteLength ≤ size →
    bareValue size fuel depth t = some (v, rest) → ReadsValue size t rest v
  arrayItems : ∀ {depth : Nat} {t rest : Text} {vs : List (Located Value)}, t.byteLength ≤ size →
    arrayItems size fuel depth t = some (vs, rest) → rest <:+ t
  inlineMembers : ∀ {depth : Nat} {t rest : Text} {ms ms' : Members}, t.byteLength ≤ size →
    ms.Lawful → inlineMembers size fuel depth ms t = some (ms', rest) →
    ∃ P, Laid size t rest P ∧ Grows P ms ms'

theorem ReadsValue.of_leaf {v : Value} (h : rest <:+ t) (hv : v.isLeaf) :
    ReadsValue size t rest v :=
  ⟨h, Value.isWritten_of_isLeaf hv, .leaf hv, fun hleaf => by rw [hv] at hleaf; cases hleaf⟩

theorem ReadsValues.succ {fuel : Nat} (ih : ReadsValues size fuel) :
    ReadsValues size (fuel + 1) := by
  refine ⟨?value, ?bareValue, ?arrayItems, ?inlineMembers⟩
  case value =>
    intro depth t rest v ht h
    unfold Toml.value at h
    obtain ⟨⟨v, _⟩, hv, he⟩ := Option.map_eq_some_iff.mp h
    cases he
    exact ⟨ih.bareValue ht hv, rfl⟩
  case bareValue =>
    intro depth t rest v ht h
    unfold Toml.bareValue at h
    split at h
    next r depth =>
      obtain ⟨⟨items, _⟩, hitems, he⟩ := Option.map_eq_some_iff.mp h
      cases he
      have hr := byteLength_le_of_suffix (List.suffix_cons '[' r)
      exact .of_leaf ((ih.arrayItems (by omega) hitems).trans (List.suffix_cons _ _)) rfl
    next r depth =>
      obtain ⟨⟨ms, _⟩, hms, he⟩ := Option.map_eq_some_iff.mp h
      cases he
      have hr := byteLength_le_of_suffix (List.suffix_cons '\x7b' r)
      obtain ⟨P, hlaid, hgrows⟩ := ih.inlineMembers (by omega) Members.lawful_nil hms
      have hlaid := hlaid.skip_append (.cons (c := '\x7b') rfl (.refl r))
      refine ⟨hlaid.suffix, rfl, Value.lawful_table_iff.mpr hgrows.lawful, fun _ => ?_⟩
      refine hlaid.congr fun m => ?_
      rw [Value.assigns_table_iff, hgrows.assigns_iff]
      simp only [Members.not_assigns_nil, false_or]
    next =>
      obtain ⟨⟨s, _⟩, hs, he⟩ := Option.map_eq_some_iff.mp h
      cases he
      exact .of_leaf (suffix_string? hs) rfl
    next =>
      obtain ⟨⟨s, _⟩, hs, he⟩ := Option.map_eq_some_iff.mp h
      cases he
      exact .of_leaf (suffix_string? hs) rfl
    next =>
      obtain ⟨v, hv, he⟩ := Option.map_eq_some_iff.mp h
      cases he
      exact .of_leaf (suffix_scalarWord t) (isLeaf_of_scalarValue? hv)
  case arrayItems =>
    intro depth t rest vs ht h
    unfold Toml.arrayItems at h
    have hspace := (Skips.skipSpace t).suffix
    split at h
    next r hr =>
      cases h
      rw [hr] at hspace
      exact (List.suffix_cons _ _).trans hspace
    next =>
      obtain ⟨⟨v, mid⟩, hv, h⟩ := Option.bind_eq_some_iff.mp h
      have hsize := byteLength_le_of_suffix hspace
      have hvalue := (ih.value (by omega) hv).1.suffix
      have hmid := (Skips.skipSpace mid).suffix.trans (hvalue.trans hspace)
      dsimp only at h
      split at h
      next r hr =>
        obtain ⟨⟨vs, _⟩, hvs, he⟩ := Option.bind_eq_some_iff.mp h
        cases he
        rw [hr] at hmid
        have hr := (List.suffix_cons _ r).trans hmid
        have hsize := byteLength_le_of_suffix hr
        exact (ih.arrayItems (by omega) hvs).trans hr
      next r hr =>
        cases h
        rw [hr] at hmid
        exact (List.suffix_cons _ _).trans hmid
      next => cases h
  case inlineMembers =>
    intro depth t rest ms ms' ht hms h
    unfold Toml.inlineMembers at h
    have hspace := Skips.skipSpace t
    split at h
    next r hr =>
      cases h
      rw [hr] at hspace
      exact ⟨_, .of_skips (hspace.trans (.cons rfl (.refl _))), grows_refl hms⟩
    next =>
      obtain ⟨⟨path, k, mid⟩, hk, h⟩ := Option.bind_eq_some_iff.mp h
      have hequals := Skips.skipSpace mid
      dsimp only at h
      split at h
      next r hr =>
        obtain ⟨⟨v, mid'⟩, hv, h⟩ := Option.bind_eq_some_iff.mp h
        obtain ⟨ms₁, hms₁, h⟩ := Option.bind_eq_some_iff.mp h
        have hstart : Skips mid (skipSpace r) := by
          rw [hr] at hequals
          exact hequals.trans (.cons rfl (.skipSpace r))
        have ht := byteLength_le_of_suffix hspace.suffix
        have hmid := byteLength_le_of_suffix (readsLine_keyParts hk).sameLine.suffix
        have hr := byteLength_le_of_suffix hstart.suffix
        obtain ⟨hvalue, hspan⟩ := ih.value (by omega) hv
        have hlaid := (laid_assignment (by omega) hk hstart hvalue hspan).skip_append hspace
        have hgrows := grows_addValue hvalue.lawful hms hms₁
        have hclose := Skips.skipSpace mid'
        dsimp only at h
        split at h
        next r' hr' =>
          rw [hr'] at hclose
          have hlaid := hlaid.append_skip (hclose.trans (.cons rfl (.refl r')))
          have hr' := byteLength_le_of_suffix hlaid.suffix
          obtain ⟨P, hrest, hms'⟩ := ih.inlineMembers (by omega) hgrows.lawful h
          exact ⟨_, hlaid.append hrest, hgrows.trans hms'⟩
        next r' hr' =>
          cases h
          rw [hr'] at hclose
          exact ⟨_, hlaid.append_skip (hclose.trans (.cons rfl (.refl _))), hgrows⟩
        next => cases h
      next => cases h

theorem readsValues (size fuel : Nat) : ReadsValues size fuel := by
  induction fuel with
  | zero =>
    refine ⟨fun _ h => ?_, fun _ h => ?_, fun _ h => ?_, fun _ _ h => ?_⟩
    · unfold Toml.value at h
      cases h
    · unfold Toml.bareValue at h
      cases h
    · unfold Toml.arrayItems at h
      cases h
    · unfold Toml.inlineMembers at h
      cases h
  | succ fuel ih => exact ih.succ

end Values

section Documents

variable {s : Statement}

theorem laid_statement (ht : t.byteLength ≤ size) (h : statement size t = some (s, rest)) :
    Laid size t rest s.Assigns ∧ s.Lawful := by
  unfold statement at h
  split at h
  next r =>
    obtain ⟨⟨path, k, mid⟩, hk, h⟩ := Option.bind_eq_some_iff.mp h
    have hline := (SameLine.skipBlanks r).trans (readsLine_keyParts hk).sameLine
    dsimp only at h
    split at h
    next r' =>
      cases h
      have hbrackets : SameLine (']' :: ']' :: rest) rest := ⟨[']', ']'], rfl, by decide⟩
      have hrest : SameLine ('[' :: r) rest := (hline.trans hbrackets).cons (by decide)
      exact ⟨.of_skips (.of_sameLine rfl rfl hrest), trivial⟩
    next => cases h
  next r _ =>
    obtain ⟨⟨path, k, mid⟩, hk, h⟩ := Option.bind_eq_some_iff.mp h
    have hline := (SameLine.skipBlanks r).trans (readsLine_keyParts hk).sameLine
    dsimp only at h
    split at h
    next r' =>
      cases h
      have hbracket : SameLine (']' :: rest) rest := ⟨[']'], rfl, by decide⟩
      exact ⟨.of_skips (.of_sameLine rfl rfl (hline.trans hbracket)), trivial⟩
    next => cases h
  next =>
    obtain ⟨⟨path, k, mid⟩, hk, h⟩ := Option.bind_eq_some_iff.mp h
    have hmid := byteLength_le_of_suffix (readsLine_keyParts hk).sameLine.suffix
    dsimp only at h
    split at h
    next r =>
      obtain ⟨⟨v, _⟩, hv, he⟩ := Option.bind_eq_some_iff.mp h
      cases he
      have hstart : Skips ('=' :: r) (skipBlanks r) := .cons rfl (.skipBlanks r)
      have hr := byteLength_le_of_suffix hstart.suffix
      obtain ⟨hvalue, hspan⟩ := (readsValues size _).value (by omega) hv
      exact ⟨laid_assignment ht hk hstart hvalue hspan, hvalue.lawful⟩
    next => cases h

theorem laid_statements {fuel : Nat} {ss : List Statement} (ht : t.byteLength ≤ size)
    (h : statements size fuel t = some ss) :
    Laid size t [] (fun m => ∃ s ∈ ss, s.Assigns m) ∧ ∀ s ∈ ss, s.Lawful := by
  induction fuel generalizing t ss with
  | zero => cases h
  | succ fuel ih =>
    unfold statements at h
    have hspace := Skips.skipSpace t
    have hsize := byteLength_le_of_suffix hspace.suffix
    split at h
    next hnil =>
      cases h
      rw [hnil] at hspace
      exact ⟨(Laid.of_skips hspace).congr fun _ => by simp, by simp⟩
    next c r hr =>
      rw [hr] at hspace hsize
      obtain ⟨⟨s, mid⟩, hs, h⟩ := Option.bind_eq_some_iff.mp h
      obtain ⟨rest, hrest, h⟩ := Option.bind_eq_some_iff.mp h
      obtain ⟨ss, hss, he⟩ := Option.bind_eq_some_iff.mp h
      cases he
      obtain ⟨hlaid, hlawful⟩ := laid_statement (by omega) hs
      have hfirst := (hlaid.skip_append hspace).append_skip (.afterStatement hrest)
      have hfirstsize := byteLength_le_of_suffix hfirst.suffix
      obtain ⟨hothers, hothersLawful⟩ := ih (by omega) hss
      exact ⟨(hfirst.append hothers).congr fun m => by simp,
        List.forall_mem_cons.mpr ⟨hlawful, hothersLawful⟩⟩

/-- A document that is read has its assignments laid out in its text. -/
theorem laid_parse {root : Members} (h : parse t = some root) :
    root.Lawful ∧ Laid t.byteLength t [] root.Assigns := by
  obtain ⟨ss, hss, h⟩ := Option.bind_eq_some_iff.mp h
  obtain ⟨b, hb, he⟩ := Option.bind_eq_some_iff.mp h
  cases he
  have hmark := Skips.dropMark t
  obtain ⟨hlaid, hlawful⟩ := laid_statements (byteLength_le_of_suffix hmark.suffix) hss
  have hgrows := Building.grows_foldlM hlawful Members.lawful_nil hb
  refine ⟨hgrows.lawful, (hlaid.skip_append hmark).congr fun m => ?_⟩
  rw [hgrows.assigns_iff]
  simp only [Members.not_assigns_nil, false_or]

end Documents

end Toml

end LineSpecials
