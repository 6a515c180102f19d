import Mathlib.Data.String.Basic
import QueryScope.Json.Document
import QueryScope.Number
import QueryScope.Proofs.Rounding

/-!
# Documents read from texts

No text spells a not-a-number, and a key that comes again replaces the value it had. So the reader
only makes well-formed documents: its numbers are numbers, and the entries of its objects stand in
increasing order of their keys. Each token keeps what has been read so far well-formed.
-/
namespace QueryScope

section

variable {σ α : Type} {P : σ → Prop} {Q : α → Prop} {f : σ → α → Option σ}

/-- What each step keeps, a run keeps. -/
theorem foldlM_keeps (hstep : ∀ s a s', P s → Q a → f s a = some s' → P s') {items : List α}
    (hitems : ∀ a ∈ items, Q a) {s s' : σ} (hs : P s) (h : items.foldlM f s = some s') : P s' := by
  induction items generalizing s with
  | nil =>
    cases h
    exact hs
  | cons a rest ih =>
    obtain ⟨ha, hrest⟩ := List.forall_mem_cons.mp hitems
    rw [List.foldlM_cons] at h
    obtain ⟨t, ht, h⟩ := Option.bind_eq_some_iff.mp h
    exact ih hrest (hstep s a t hs ha ht) h

end

def JsonNumber.isNaN : JsonNumber → Bool
  | .float x => x.isNaN
  | _ => false

theorem Number.isNaN_ofJson (n : JsonNumber) : (Number.ofJson n).isNaN = n.isNaN := by
  cases n with
  | natural n =>
    rw [Number.ofJson]
    split <;> rfl
  | negative | float => rfl

namespace Numeral

variable {x y : Binary64} {n : JsonNumber}

theorem isNaN_scaleDown (h : x.isNaN = false) (k : Nat) : (scaleDown x k).isNaN = false := by
  fun_induction scaleDown x k with
  | case1 => exact Binary64.isNaN_nearest _ _ _
  | case2 => exact h
  | case3 x k _ _ ih => exact ih (Binary64.isNaN_nearest _ _ _)

theorem isNaN_of_scaleUp? {k : Nat} (h : x.isNaN = false) (hy : scaleUp? x k = some y) :
    y.isNaN = false := by
  rw [scaleUp?] at hy
  split at hy
  · dsimp only at hy
    split at hy
    · cases hy
    · cases hy
      exact Binary64.isNaN_nearest _ _ _
  · split at hy
    · cases hy
      exact h
    · cases hy

theorem isNaN_of_scaled? {significand : Nat} {exponent : Int}
    (hy : scaled? significand exponent = some y) : y.isNaN = false := by
  rw [scaled?] at hy
  split at hy
  · exact isNaN_of_scaleUp? (Binary64.isNaN_ofInt _) hy
  · cases hy
    exact isNaN_scaleDown (Binary64.isNaN_ofInt _) _

theorem isNaN_ofWord (negative : Bool) (n : Nat) : (ofWord negative n).isNaN = false := by
  rw [ofWord]
  split
  · rfl
  · split
    · exact Binary64.isNaN_ofInt n
    · rfl

/-- No numeral denotes a not-a-number. -/
theorem isNaN_of_number? {numeral : Numeral} (h : numeral.number? = some n) : n.isNaN = false := by
  rw [number?] at h
  dsimp only at h
  split at h
  · cases h
    exact isNaN_ofWord _ _
  · obtain ⟨x, hx, rfl⟩ := Option.map_eq_some_iff.mp h
    have hnumber := isNaN_of_scaled? hx
    change (if numeral.negative then x.neg else x).isNaN = false
    split <;> exact hnumber

end Numeral

namespace Json

/-- A token does not hold a not-a-number. -/
def Token.WellFormed : Token → Prop
  | .number n => n.isNaN = false
  | _ => True

namespace Scanner

variable {s s' : Scanner}

def WellFormed (s : Scanner) : Prop := ∀ token ∈ s.tokens, token.WellFormed

theorem wellFormed_emit (h : s.WellFormed) {token : Token} (htoken : token.WellFormed) :
    (s.emit token).WellFormed := List.forall_mem_cons.mpr ⟨htoken, h⟩

theorem wellFormed_of_word? {letters : List Char} {token : Token}
    (h : word? letters = some token) : token.WellFormed := by
  unfold word? at h
  split at h <;> cases h <;> trivial

theorem wellFormed_of_finish? (hs : s.WellFormed) (h : s.finish? = some s') : s'.WellFormed := by
  unfold finish? at h
  split at h
  · cases h
    exact hs
  · obtain ⟨token, htoken, rfl⟩ := Option.map_eq_some_iff.mp h
    exact wellFormed_emit hs (wellFormed_of_word? htoken)
  · obtain ⟨numeral, -, h⟩ := Option.bind_eq_some_iff.mp h
    obtain ⟨n, hn, h⟩ := Option.bind_eq_some_iff.mp h
    cases h
    exact wellFormed_emit hs (Numeral.isNaN_of_number? hn)
  · cases h

theorem wellFormed_of_start? (hs : s.WellFormed) {c : Char} (h : s.start? c = some s') :
    s'.WellFormed := by
  unfold start? at h
  repeat' split at h
  all_goals cases h
  all_goals first | exact hs | exact wellFormed_emit hs trivial

theorem wellFormed_of_step? (hs : s.WellFormed) {c : Char} (h : s.step? c = some s') :
    s'.WellFormed := by
  -- a character that ends a word or a numeral also begins what follows
  have hnext (h : (s.finish?.bind fun t => t.start? c) = some s') : s'.WellFormed := by
    obtain ⟨t, ht, h⟩ := Option.bind_eq_some_iff.mp h
    exact wellFormed_of_start? (wellFormed_of_finish? hs ht) h
  unfold step? at h
  split at h
  case h_1 => exact wellFormed_of_start? hs h
  case h_2 | h_3 =>
    split at h
    · cases h
      exact hs
    · exact hnext h
  case h_4 =>
    repeat' split at h
    all_goals cases h
    · exact wellFormed_emit hs trivial
    · exact hs
    · exact hs
  case h_5 =>
    split at h
    · cases h
      exact hs
    · obtain ⟨_, -, rfl⟩ := Option.map_eq_some_iff.mp h
      exact hs
  case h_6 =>
    obtain ⟨_, -, h⟩ := Option.bind_eq_some_iff.mp h
    dsimp only at h
    split at h
    · obtain ⟨_, -, h⟩ := Option.bind_eq_some_iff.mp h
      cases h
      exact hs
    · cases h
      exact hs
  case h_7 | h_8 =>
    split at h
    · cases h
      exact hs
    · cases h

end Scanner

theorem wellFormed_of_tokens? {text : String} {tokens : List Token}
    (h : tokens? text = some tokens) : ∀ token ∈ tokens, token.WellFormed := by
  obtain ⟨scanner, hscanner, h⟩ := Option.bind_eq_some_iff.mp h
  obtain ⟨finished, hfinished, h⟩ := Option.bind_eq_some_iff.mp h
  cases h
  have hstart : Scanner.WellFormed ⟨.nothing, []⟩ := List.forall_mem_nil _
  have hs : scanner.WellFormed := foldlM_keeps (Q := fun _ => True)
    (fun s c s' hs _ h => Scanner.wellFormed_of_step? hs h) (fun _ _ => trivial) hstart hscanner
  exact fun token htoken =>
    Scanner.wellFormed_of_finish? hs hfinished token (List.mem_reverse.mp htoken)

/-- No number in a document is a not-a-number, and the entries of its objects stand in increasing
order of their keys. -/
inductive WellFormed : Json → Prop
  | null : WellFormed .null
  | bool (b : Bool) : WellFormed (.bool b)
  | number {n : JsonNumber} (h : n.isNaN = false) : WellFormed (.number n)
  | string (s : String) : WellFormed (.string s)
  | array {items : List Json} (h : ∀ item ∈ items, WellFormed item) : WellFormed (.array items)
  | object {entries : JsonObject} (hkeys : entries.Pairwise fun a b => a.1 < b.1)
    (h : ∀ entry ∈ entries, WellFormed entry.2) : WellFormed (.object entries)

end Json

namespace JsonObject

variable {key : String} {value : Json} {entries : JsonObject} {entry : String × Json}

theorem mem_insert (h : entry ∈ insert key value entries) :
    entry = (key, value) ∨ entry ∈ entries := by
  induction entries with
  | nil => exact .inl (List.mem_singleton.mp h)
  | cons first rest ih =>
    rw [insert] at h
    split at h
    · exact List.mem_cons.mp h
    split at h
    · exact (List.mem_cons.mp h).imp_right (List.mem_cons_of_mem _)
    · rcases List.mem_cons.mp h with rfl | h
      · exact .inr List.mem_cons_self
      · exact (ih h).imp_right (List.mem_cons_of_mem _)

theorem pairwise_insert (h : entries.Pairwise fun a b => a.1 < b.1) :
    (insert key value entries).Pairwise fun a b => a.1 < b.1 := by
  induction entries with
  | nil => exact List.pairwise_singleton _ _
  | cons first rest ih =>
    obtain ⟨hfirst, hrest⟩ := List.pairwise_cons.mp h
    rw [insert]
    split
    · rename_i hlt
      refine List.pairwise_cons.mpr ⟨List.forall_mem_cons.mpr ⟨hlt, fun entry hentry => ?_⟩, h⟩
      exact lt_trans hlt (hfirst entry hentry)
    split
    · rename_i heq
      subst heq
      exact List.pairwise_cons.mpr ⟨hfirst, hrest⟩
    · rename_i hlt hne
      refine List.pairwise_cons.mpr ⟨fun entry hentry => ?_, ih hrest⟩
      rcases mem_insert hentry with rfl | hentry
      · exact lt_of_le_of_ne (le_of_not_gt hlt) (Ne.symm hne)
      · exact hfirst entry hentry

/-- In an object with sorted keys, each member is found under its key. -/
theorem get?_eq_some_of_mem (h : entries.Pairwise fun a b => a.1 < b.1)
    (hentry : entry ∈ entries) : get? entries entry.1 = some entry.2 := by
  induction entries with
  | nil => cases hentry
  | cons first rest ih =>
    obtain ⟨hfirst, hrest⟩ := List.pairwise_cons.mp h
    rw [get?, List.lookup_cons]
    rcases List.mem_cons.mp hentry with rfl | hentry
    · rw [beq_self_eq_true]
    · have hne : (entry.1 == first.1) = false := beq_false_of_ne (ne_of_gt (hfirst _ hentry))
      rw [hne]
      exact ih hrest hentry

end JsonObject

namespace Json

theorem WellFormed.insert {key : String} {value : Json} {entries : JsonObject}
    (hvalue : value.WellFormed) (h : (Json.object entries).WellFormed) :
    (Json.object (entries.insert key value)).WellFormed := by
  cases h with
  | object hkeys hentries =>
    refine .object (JsonObject.pairwise_insert hkeys) fun entry hentry => ?_
    rcases JsonObject.mem_insert hentry with rfl | hentry
    · exact hvalue
    · exact hentries entry hentry

/-- What an open container holds so far is well-formed. -/
def Frame.WellFormed : Frame → Prop
  | .array items => (Json.array items).WellFormed
  | .object entries _ => (Json.object entries).WellFormed

def Stage.WellFormed : Stage → Prop
  | .value | .arrayStart | .objectStart => True
  | .arrayNext items => (Json.array items).WellFormed
  | .objectKey entries | .objectColon entries _ | .objectNext entries =>
    (Json.object entries).WellFormed
  | .finished document => document.WellFormed

theorem wellFormed_nil_array : (Json.array []).WellFormed :=
  .array (List.forall_mem_nil _)

theorem wellFormed_nil_object : (Json.object []).WellFormed :=
  .object List.Pairwise.nil (List.forall_mem_nil _)

namespace Unfinished

structure WellFormed (u : Unfinished) : Prop where
  frames : ∀ frame ∈ u.frames, frame.WellFormed
  stage : u.stage.WellFormed

variable {frames : List Frame} {token : Token} {u u' : Unfinished}

theorem wellFormed_place {value : Json} (hvalue : value.WellFormed)
    (h : ∀ frame ∈ frames, frame.WellFormed) : (place value frames).WellFormed := by
  cases frames with
  | nil => exact ⟨h, hvalue⟩
  | cons frame rest =>
    obtain ⟨hframe, hrest⟩ := List.forall_mem_cons.mp h
    cases frame with
    | array items =>
      refine ⟨hrest, ?_⟩
      cases hframe with
      | array hitems => exact .array (List.forall_mem_cons.mpr ⟨hvalue, hitems⟩)
    | object entries key => exact ⟨hrest, hvalue.insert hframe⟩

theorem wellFormed_of_open? {stage : Stage} (h : ∀ frame ∈ frames, frame.WellFormed)
    (hstage : stage.WellFormed) (hu : open? frames stage = some u) : u.WellFormed := by
  rw [open?] at hu
  split at hu <;> cases hu
  exact ⟨h, hstage⟩

theorem wellFormed_of_value? (h : ∀ frame ∈ frames, frame.WellFormed) (htoken : token.WellFormed)
    (hu : value? frames token = some u) : u.WellFormed := by
  cases token with
  | null =>
    cases hu
    exact wellFormed_place .null h
  | bool b =>
    cases hu
    exact wellFormed_place (.bool b) h
  | number n =>
    cases hu
    exact wellFormed_place (.number htoken) h
  | string s =>
    cases hu
    exact wellFormed_place (.string s) h
  | openArray | openObject =>
    refine wellFormed_of_open? h ?_ hu
    trivial
  | _ => cases hu

/-- A token keeps what is unfinished well-formed. -/
theorem wellFormed_of_step? (hu : u.WellFormed) (htoken : token.WellFormed)
    (h : u.step? token = some u') : u'.WellFormed := by
  obtain ⟨frames, stage⟩ := u
  obtain ⟨hframes, hstage⟩ := hu
  have hwith {frame : Frame} (hframe : frame.WellFormed) :
      ∀ f ∈ frame :: frames, f.WellFormed := List.forall_mem_cons.mpr ⟨hframe, hframes⟩
  unfold step? at h
  dsimp only at h hframes hstage
  split at h
  case h_1 => exact wellFormed_of_value? hframes htoken h
  case h_2 =>
    cases h
    exact wellFormed_place wellFormed_nil_array hframes
  case h_3 =>
    have hempty : Frame.WellFormed (.array []) := wellFormed_nil_array
    exact wellFormed_of_value? (hwith hempty) htoken h
  case h_4 =>
    cases h
    exact ⟨hwith hstage, trivial⟩
  case h_5 =>
    cases h
    refine wellFormed_place ?_ hframes
    cases hstage with
    | array hitems => exact .array fun item hitem => hitems item (List.mem_reverse.mp hitem)
  case h_6 =>
    cases h
    exact wellFormed_place wellFormed_nil_object hframes
  case h_7 =>
    cases h
    exact ⟨hframes, wellFormed_nil_object⟩
  case h_8 | h_10 =>
    cases h
    exact ⟨hframes, hstage⟩
  case h_9 =>
    cases h
    exact ⟨hwith hstage, trivial⟩
  case h_11 =>
    cases h
    exact wellFormed_place hstage hframes
  case h_12 => cases h

end Unfinished

/-- A document that a text spells is well-formed. -/
theorem wellFormed_of_ofText? {text : String} {document : Json}
    (h : ofText? text = some document) : document.WellFormed := by
  obtain ⟨tokens, htokens, h⟩ := Option.bind_eq_some_iff.mp h
  obtain ⟨u, hu, h⟩ := Option.bind_eq_some_iff.mp h
  have hstart : Unfinished.WellFormed ⟨[], .value⟩ := ⟨List.forall_mem_nil _, trivial⟩
  have hend := foldlM_keeps (fun u token u' => Unfinished.wellFormed_of_step?)
    (wellFormed_of_tokens? htokens) hstart hu
  split at h <;> cases h
  rename_i hstage
  have hstage' := hend.stage
  rw [hstage] at hstage'
  exact hstage'

end Json
end QueryScope
