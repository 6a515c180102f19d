import QueryScope.OrderSpec.Resolve
import QueryScope.Proofs.Success

/-!
# What order specifications ask for

A document lists attributes with directions: a name alone is ascending, an object lists its entries,
and an array lists what its items do. The specification resolves if it lists at least one attribute,
each with a name and a direction, and then there is one key for each, in order. The other forms
resolve as the documents that list the same, and keys that came out once come out again.
-/
namespace QueryScope

namespace Text

/-- A text is a word up to the case of its letters, which only ASCII letters have. -/
def AnyCase (text word : String) : Prop :=
  List.Forall₂ (fun c w => c = w ∨ c = w.toUpper) text.toList word.toList

theorem isLower_iff {c : Char} : c.isLower = true ↔ 97 ≤ c.toNat ∧ c.toNat ≤ 122 := by
  change (decide ('a'.val ≤ c.val) && decide (c.val ≤ 'z'.val)) = true ↔ _
  rw [Bool.and_eq_true, decide_eq_true_iff, decide_eq_true_iff, UInt32.le_iff_toNat_le,
    UInt32.le_iff_toNat_le]
  rfl

theorem toNat_toLower (c : Char) :
    c.toLower.toNat = if 65 ≤ c.toNat ∧ c.toNat ≤ 90 then c.toNat + 32 else c.toNat := by
  have hrange : 'A'.val ≤ c.val ∧ c.val ≤ 'Z'.val ↔ 65 ≤ c.toNat ∧ c.toNat ≤ 90 := by
    rw [UInt32.le_iff_toNat_le, UInt32.le_iff_toNat_le]
    rfl
  by_cases h : 'A'.val ≤ c.val ∧ c.val ≤ 'Z'.val
  · have hlower : c.toLower = ⟨c.val + ('a'.val - 'A'.val), _⟩ := dif_pos h
    have hsmall := (hrange.mp h).2
    rw [if_pos (hrange.mp h), hlower]
    change (c.val + ('a'.val - 'A'.val)).toNat = _
    rw [UInt32.toNat_add]
    change (c.toNat + 32) % 4294967296 = _
    omega
  · have hsame : c.toLower = c := dif_neg h
    rw [if_neg (mt hrange.mpr h), hsame]

theorem toNat_toUpper {c : Char} (h : c.isLower = true) : c.toUpper.toNat + 32 = c.toNat := by
  have hrange := isLower_iff.mp h
  have hlower : 'a'.val ≤ c.val ∧ c.val ≤ 'z'.val := by
    rw [UInt32.le_iff_toNat_le, UInt32.le_iff_toNat_le]
    exact hrange
  -- adding to a word until it wraps around takes 32 away
  have hupper : c.toUpper = ⟨c.val + ('A'.val - 'a'.val), _⟩ := dif_pos hlower
  rw [hupper]
  change (c.val + ('A'.val - 'a'.val)).toNat + 32 = _
  rw [UInt32.toNat_add]
  change (c.toNat + 4294967264) % 4294967296 + 32 = _
  omega

theorem toLower_eq_char_iff {c w : Char} (hw : w.isLower = true) :
    c.toLower = w ↔ c = w ∨ c = w.toUpper := by
  have hrange := isLower_iff.mp hw
  have hupper := toNat_toUpper hw
  rw [← Char.toNat_inj, ← Char.toNat_inj, ← Char.toNat_inj, toNat_toLower]
  split <;> omega

theorem map_toLower_eq_iff {cs ws : List Char} (h : ∀ w ∈ ws, w.isLower = true) :
    cs.map Char.toLower = ws ↔ List.Forall₂ (fun c w => c = w ∨ c = w.toUpper) cs ws := by
  induction cs generalizing ws with
  | nil => cases ws <;> simp
  | cons c cs ih =>
    cases ws with
    | nil => simp
    | cons w ws =>
      obtain ⟨hw, hws⟩ := List.forall_mem_cons.mp h
      rw [List.map_cons, List.cons.injEq, List.forall₂_cons, toLower_eq_char_iff hw, ih hws]

/-- A text in any case is one that has the word as its small letters. -/
theorem toLower_eq_iff {text word : String} (h : ∀ w ∈ word.toList, w.isLower = true) :
    text.toLower = word ↔ AnyCase text word := by
  have hlower : text.toLower = text.map Char.toLower := rfl
  rw [← String.toList_inj, hlower, String.toList_map, map_toLower_eq_iff h, AnyCase]

end Text

namespace Direction

variable {text : String} {dir : Direction}

def NamedBy : Direction → String → Prop
  | .ascending, text => Text.AnyCase text "asc" ∨ Text.AnyCase text "ascending"
  | .descending, text => Text.AnyCase text "desc" ∨ Text.AnyCase text "descending"

theorem namedBy_name (dir : Direction) : dir.NamedBy dir.name := by
  cases dir <;> exact .inl (List.forall₂_same.mpr fun _ _ => .inl rfl)

/-- A direction is read from its name in any case, and from nothing else. -/
theorem parse_eq_ok : parse text = .ok dir ↔ dir.NamedBy text := by
  unfold parse
  cases dir <;> rw [NamedBy, ← Text.toLower_eq_iff (by simp), ← Text.toLower_eq_iff (by simp)]
  all_goals split <;> simp_all

end Direction

namespace OrderSpec

variable {spec : OrderSpec} {document : Json} {entry : String × Json} {key : SortKey}
  {keys : List SortKey}

/-- An attribute with a direction asks for a key. -/
structure AsksFor (entry : String × Json) (key : SortKey) : Prop where
  name_eq : key.name = entry.1
  direction : ∃ text, entry.2 = .string text ∧ key.direction.NamedBy text

/-- What an item of an array lists: a name alone is ascending. -/
def itemEntries : Json → List (String × Json)
  | .string name => [(name, .string "asc")]
  | .object entries => entries
  | _ => []

/-- The attributes with directions that a document lists. -/
def listedEntries : Json → List (String × Json)
  | .array items => items.flatMap itemEntries
  | document => itemEntries document

/-- An item of an array is a name or an object. -/
def IsItem : Json → Prop
  | .string _ | .object _ => True
  | _ => False

/-- A document is a name, an object or an array of both. -/
def IsListing : Json → Prop
  | .array items => ∀ item ∈ items, IsItem item
  | document => IsItem document

theorem pairKey_eq_ok {pair : String × String} :
    pairKey pair = .ok key ↔ key.name = pair.1 ∧ key.direction.NamedBy pair.2 := by
  obtain ⟨name, text⟩ := pair
  obtain ⟨name', dir⟩ := key
  rw [← Direction.parse_eq_ok, pairKey]
  cases Direction.parse text with
  | ok dir' => simp [SortKey.mk.injEq, eq_comm]
  | error e => simp

theorem entryKey_eq_ok : entryKey entry = .ok key ↔ AsksFor entry key := by
  obtain ⟨name, document⟩ := entry
  cases document with
  | string text =>
    refine pairKey_eq_ok.trans ⟨fun h => ⟨h.1, text, rfl, h.2⟩, ?_⟩
    rintro ⟨hname, _, ⟨⟩, hdirection⟩
    exact ⟨hname, hdirection⟩
  | _ => exact iff_of_false nofun fun ⟨_, _, h, _⟩ => nomatch h

theorem asksFor_name {name : String} :
    AsksFor (name, .string "asc") key ↔ key = ⟨name, .ascending⟩ := by
  have hkey : entryKey (name, .string "asc") = .ok ⟨name, .ascending⟩ :=
    entryKey_eq_ok.mpr ⟨rfl, "asc", rfl, Direction.namedBy_name .ascending⟩
  rw [← entryKey_eq_ok, hkey, Except.ok.injEq, eq_comm]

theorem forall₂_asksFor_name {name : String} :
    List.Forall₂ AsksFor [(name, .string "asc")] keys ↔ keys = [⟨name, .ascending⟩] := by
  rw [List.forall₂_cons_left_iff]
  simp only [List.forall₂_nil_left_iff, asksFor_name]
  constructor
  · rintro ⟨_, _, rfl, rfl, rfl⟩
    rfl
  · rintro rfl
    exact ⟨_, _, rfl, rfl, rfl⟩

theorem mapM_entryKey_eq_ok {entries : List (String × Json)} :
    entries.mapM entryKey = .ok keys ↔ List.Forall₂ AsksFor entries keys := by
  simp only [mapM_eq_ok, entryKey_eq_ok]

theorem itemKeys_eq_ok (item : Json) :
    itemKeys item = .ok keys ↔ IsItem item ∧ List.Forall₂ AsksFor (itemEntries item) keys := by
  cases item with
  | string name =>
    rw [itemKeys, itemEntries, forall₂_asksFor_name, Except.ok.injEq, eq_comm]
    exact (and_iff_right trivial).symm
  | object entries =>
    rw [itemKeys, mapM_entryKey_eq_ok]
    exact (and_iff_right trivial).symm
  | _ => simp [itemKeys, IsItem]

/-- Lists that correspond part by part are lists that correspond as a whole. -/
theorem exists_flatten_iff {α : Type u} {β : Type v} {γ : Type w} {R : β → γ → Prop}
    {f : α → List β} {xs : List α} {zs : List γ} :
    (∃ groups, List.Forall₂ (fun x => List.Forall₂ R (f x)) xs groups ∧ groups.flatten = zs) ↔
      List.Forall₂ R (xs.flatMap f) zs := by
  constructor
  · rintro ⟨groups, h, rfl⟩
    exact List.rel_flatten (List.forall₂_map_left_iff.mpr h)
  · intro h
    induction xs generalizing zs with
    | nil => exact ⟨[], .nil, (List.forall₂_nil_left_iff.mp h).symm⟩
    | cons x xs ih =>
      rw [List.flatMap_cons] at h
      have hfirst := (List.forall₂_take_append _ _ _ h.flip).flip
      obtain ⟨groups, hgroups, hzs⟩ := ih (List.forall₂_drop_append _ _ _ h.flip).flip
      refine ⟨zs.take (f x).length :: groups, .cons hfirst hgroups, ?_⟩
      rw [List.flatten_cons, hzs, List.take_append_drop]

/-- A listing is read entry by entry, in order, and no other document is read. -/
theorem documentKeys_eq_ok :
    documentKeys document = .ok keys ↔
      IsListing document ∧ List.Forall₂ AsksFor (listedEntries document) keys := by
  cases document with
  | array items =>
    rw [documentKeys, map_eq_ok, listedEntries, IsListing, ← exists_flatten_iff,
      ← exists_and_left]
    simp only [mapM_eq_ok, itemKeys_eq_ok, List.forall₂_and_left, and_assoc]
  | string name => exact itemKeys_eq_ok (.string name)
  | object entries => exact itemKeys_eq_ok (.object entries)
  | _ => exact iff_of_false nofun fun h => h.1

/-- There is a key, and every key has a name. -/
def Complete (keys : List SortKey) : Prop := keys ≠ [] ∧ ∀ key ∈ keys, key.name ≠ ""

theorem checkKeys_eq_ok {keys' : List SortKey} :
    checkKeys keys = .ok keys' ↔ keys' = keys ∧ Complete keys := by
  have hempty : (keys.any fun key => key.name.isEmpty) = true ↔ ∃ key ∈ keys, key.name = "" := by
    simp only [List.any_eq_true, String.isEmpty_iff]
  simp only [checkKeys, List.isEmpty_iff, hempty]
  by_cases hnone : keys = []
  · rw [if_pos hnone]
    exact iff_of_false nofun fun h => h.2.1 hnone
  by_cases hname : ∃ key ∈ keys, key.name = ""
  · obtain ⟨key, hkey, hname'⟩ := hname
    rw [if_neg hnone, if_pos ⟨key, hkey, hname'⟩]
    exact iff_of_false nofun fun h => h.2.2 key hkey hname'
  · rw [if_neg hnone, if_neg hname, Except.ok.injEq, eq_comm]
    exact (and_iff_left ⟨hnone, fun key hkey h => hname ⟨key, hkey, h⟩⟩).symm

/-- A specification resolves to the keys it lists if they are complete. -/
theorem resolve_eq_ok : spec.resolve = .ok keys ↔ spec.listedKeys = .ok keys ∧ Complete keys := by
  have hcheck : spec.listedKeys >>= checkKeys = .ok keys ↔
      spec.listedKeys = .ok keys ∧ Complete keys := by
    rw [bind_eq_ok]
    constructor
    · rintro ⟨_, hlisted, hkeys⟩
      obtain ⟨rfl, hcomplete⟩ := checkKeys_eq_ok.mp hkeys
      exact ⟨hlisted, hcomplete⟩
    · exact fun h => ⟨keys, h.1, checkKeys_eq_ok.mpr ⟨rfl, h.2⟩⟩
  rw [← hcheck, resolve]
  cases spec.listedKeys >>= checkKeys <;> simp

/-- A specification that does not resolve is named by the failure. -/
theorem resolve_cases (spec : OrderSpec) :
    (∃ keys, spec.resolve = .ok keys) ∨
      ∃ fault, spec.resolve = .error (.invalidOrder spec fault) := by
  unfold resolve
  cases spec.listedKeys >>= checkKeys with
  | ok keys => exact .inl ⟨keys, rfl⟩
  | error fault => exact .inr ⟨fault, rfl⟩

def IsDirected (entry : String × Json) : Prop :=
  entry.1 ≠ "" ∧ ∃ text dir, entry.2 = .string text ∧ Direction.NamedBy dir text

/-- A name, or an object with one entry. -/
inductive IsSingle : Json → Prop
  | name {name : String} (h : name ≠ "") : IsSingle (.string name)
  | entry {entry : String × Json} (h : IsDirected entry) : IsSingle (.object [entry])

/-- The shapes of an order: a name, a list of names and objects with one entry, or an object. -/
inductive IsOrder : Json → Prop
  | name {name : String} (h : name ≠ "") : IsOrder (.string name)
  | list {items : List Json} (hne : items ≠ []) (h : ∀ item ∈ items, IsSingle item) :
    IsOrder (.array items)
  | mapping {entries : List (String × Json)} (hne : entries ≠ [])
    (h : ∀ entry ∈ entries, IsDirected entry) : IsOrder (.object entries)

/-- No object in an array is without entries or has several of them. -/
def HasSingleEntries (document : Json) : Prop :=
  ∀ items entries, document = .array items → .object entries ∈ items → entries.length = 1

theorem isDirected_iff : IsDirected entry ↔ ∃ key, AsksFor entry key ∧ key.name ≠ "" := by
  constructor
  · rintro ⟨hname, text, dir, htext, hdir⟩
    exact ⟨⟨entry.1, dir⟩, ⟨rfl, text, htext, hdir⟩, hname⟩
  · rintro ⟨key, ⟨hname, text, htext, hdir⟩, hne⟩
    exact ⟨hname ▸ hne, text, key.direction, htext, hdir⟩

theorem forall_isDirected_iff {entries : List (String × Json)} :
    (∀ entry ∈ entries, IsDirected entry) ↔
      ∃ keys, List.Forall₂ AsksFor entries keys ∧ ∀ key ∈ keys, key.name ≠ "" := by
  simp only [isDirected_iff, ← exists_forall₂_iff]
  refine exists_congr fun keys => ?_
  constructor
  · intro h
    obtain ⟨hnames, hasks⟩ := (List.forall₂_and_left _ _).mp (h.flip.imp fun _ _ h => ⟨h.2, h.1⟩)
    exact ⟨hasks.flip, hnames⟩
  · rintro ⟨hasks, hnames⟩
    exact ((List.forall₂_and_left _ _).mpr ⟨hnames, hasks.flip⟩).flip.imp fun _ _ h => ⟨h.2, h.1⟩

theorem resolve_spelled_eq_ok :
    (spelled document).resolve = .ok keys ↔
      IsListing document ∧ List.Forall₂ AsksFor (listedEntries document) keys ∧ Complete keys := by
  rw [resolve_eq_ok, listedKeys, documentKeys_eq_ok, and_assoc]

/-- A document resolves just if it lists some entries, each with a name and a direction. -/
theorem exists_resolve_spelled_iff :
    (∃ keys, (spelled document).resolve = .ok keys) ↔
      IsListing document ∧ listedEntries document ≠ [] ∧
        ∀ entry ∈ listedEntries document, IsDirected entry := by
  rw [forall_isDirected_iff]
  constructor
  · rintro ⟨keys, hkeys⟩
    obtain ⟨hlisting, hasks, hne, hnames⟩ := resolve_spelled_eq_ok.mp hkeys
    refine ⟨hlisting, fun hnil => hne ?_, keys, hasks, hnames⟩
    rwa [hnil, List.forall₂_nil_left_iff] at hasks
  · rintro ⟨hlisting, hne, keys, hasks, hnames⟩
    refine ⟨keys, resolve_spelled_eq_ok.mpr ⟨hlisting, hasks, fun hnil => hne ?_, hnames⟩⟩
    rwa [hnil, List.forall₂_nil_right_iff] at hasks

theorem isDirected_name {name : String} : IsDirected (name, .string "asc") ↔ name ≠ "" := by
  rw [isDirected_iff]
  simp only [asksFor_name, exists_eq_left]

theorem isSingle_iff {item : Json} :
    IsSingle item ↔ IsItem item ∧ (∀ entries, item = .object entries → entries.length = 1) ∧
      ∀ entry ∈ itemEntries item, IsDirected entry := by
  cases item with
  | string name =>
    rw [itemEntries, List.forall_mem_singleton, isDirected_name]
    constructor
    · rintro ⟨h⟩
      exact ⟨trivial, nofun, h⟩
    · exact fun h => .name h.2.2
  | object entries =>
    constructor
    · rintro (_ | ⟨h⟩)
      exact ⟨trivial, fun _ heq => by cases heq; rfl, List.forall_mem_singleton.mpr h⟩
    · rintro ⟨-, hone, h⟩
      obtain ⟨entry, rfl⟩ := List.length_eq_one_iff.mp (hone entries rfl)
      exact .entry (h entry List.mem_cons_self)
  | _ => exact iff_of_false nofun fun h => h.1

theorem IsSingle.itemEntries_ne_nil {item : Json} (h : IsSingle item) : itemEntries item ≠ [] := by
  cases h <;> exact List.cons_ne_nil _ _

/-- The shapes of an order are the listings without objects in arrays that list nothing or more than
one attribute. -/
theorem isOrder_iff :
    IsOrder document ↔ HasSingleEntries document ∧ IsListing document ∧
      listedEntries document ≠ [] ∧ ∀ entry ∈ listedEntries document, IsDirected entry := by
  cases document with
  | string name =>
    have hlisted : listedEntries (.string name) = [(name, .string "asc")] := rfl
    rw [hlisted, List.forall_mem_singleton, isDirected_name]
    constructor
    · rintro ⟨h⟩
      exact ⟨nofun, trivial, List.cons_ne_nil _ _, h⟩
    · exact fun h => .name h.2.2.2
  | object entries =>
    constructor
    · rintro (_ | _ | ⟨hne, h⟩)
      exact ⟨nofun, trivial, hne, h⟩
    · exact fun h => .mapping h.2.2.1 h.2.2.2
  | array items =>
    rw [listedEntries, IsListing]
    constructor
    · rintro (_ | ⟨hne, hsingle⟩ | _)
      have h item hitem := isSingle_iff.mp (hsingle item hitem)
      refine ⟨?_, fun item hitem => (h item hitem).1, fun hnil => ?_, fun entry hentry => ?_⟩
      · rintro _ entries ⟨⟩ hentries
        exact (h _ hentries).2.1 entries rfl
      · obtain ⟨item, hitem⟩ := List.exists_mem_of_ne_nil _ hne
        exact (hsingle item hitem).itemEntries_ne_nil (List.flatMap_eq_nil_iff.mp hnil item hitem)
      · obtain ⟨item, hitem, hentry⟩ := List.mem_flatMap.mp hentry
        exact (h item hitem).2.2 entry hentry
    · rintro ⟨hone, hitems, hne, h⟩
      refine .list ?_ fun item hitem =>
        isSingle_iff.mpr ⟨hitems item hitem, ?_, fun entry hentry => h entry ?_⟩
      · rintro rfl
        exact hne rfl
      · rintro entries rfl
        exact hone _ _ rfl hitem
      · exact List.mem_flatMap.mpr ⟨item, hitem, hentry⟩
  | _ => exact iff_of_false nofun fun h => h.2.1

/-- A document resolves just if it lists attributes, at least one, each with a name and a direction,
and there is one key for each of them in order. It has then the shape of an order, unless an object
in an array has no entry or several of them. Any other document fails as no order. -/
theorem resolve_spelled_iff_listing (document : Json) :
    ((∃ keys, (spelled document).resolve = .ok keys) ↔
        IsListing document ∧ listedEntries document ≠ [] ∧
          ∀ entry ∈ listedEntries document, IsDirected entry) ∧
      (∀ keys, (spelled document).resolve = .ok keys ↔
        IsListing document ∧ List.Forall₂ AsksFor (listedEntries document) keys ∧ Complete keys) ∧
      (IsOrder document ↔
        (∃ keys, (spelled document).resolve = .ok keys) ∧ HasSingleEntries document) ∧
      ((∃ keys, (spelled document).resolve = .ok keys) ∨
        ∃ fault,
          (spelled document).resolve = .error (.invalidOrder (.spelled document) fault)) := by
  refine ⟨exists_resolve_spelled_iff, fun keys => resolve_spelled_eq_ok, ?_, resolve_cases _⟩
  rw [isOrder_iff, exists_resolve_spelled_iff, and_comm]

/-- An object in an array gives as many keys as it has entries: two come in the order of their
names, and none is passed over. -/
theorem resolve_spelled_uneven_objects :
    let both : Json := .array [.object [("author", .string "asc"), ("year", .string "desc")]]
    let neither : Json := .array [.object [], .string "title"]
    (¬IsOrder both ∧
        (spelled both).resolve = .ok [⟨"author", .ascending⟩, ⟨"year", .descending⟩]) ∧
      ¬IsOrder neither ∧ (spelled neither).resolve = .ok [⟨"title", .ascending⟩] := by
  have hboth : List.Forall₂ AsksFor [("author", .string "asc"), ("year", .string "desc")]
      [⟨"author", .ascending⟩, ⟨"year", .descending⟩] :=
    .cons ⟨rfl, _, rfl, Direction.namedBy_name .ascending⟩
      (.cons ⟨rfl, _, rfl, Direction.namedBy_name .descending⟩ .nil)
  have hneither : List.Forall₂ AsksFor [("title", .string "asc")] [⟨"title", .ascending⟩] :=
    forall₂_asksFor_name.mpr rfl
  refine ⟨⟨fun h => ?_, resolve_spelled_eq_ok.mpr ⟨?_, hboth, ?_⟩⟩, fun h => ?_,
    resolve_spelled_eq_ok.mpr ⟨?_, hneither, ?_⟩⟩
  · cases (isOrder_iff.mp h).1 _ _ rfl List.mem_cons_self
  · simp [IsListing, IsItem]
  · simp [Complete]
  · cases (isOrder_iff.mp h).1 _ _ rfl List.mem_cons_self
  · simp [IsListing, IsItem]
  · simp [Complete]

/-- Two specifications resolve to the same keys, or neither resolves, for the same reason. -/
def Agree (a b : OrderSpec) : Prop :=
  (∃ keys, a.resolve = .ok keys ∧ b.resolve = .ok keys) ∨
    ∃ fault, a.resolve = .error (.invalidOrder a fault) ∧
      b.resolve = .error (.invalidOrder b fault)

theorem agree_of_listedKeys_eq {a b : OrderSpec} (h : a.listedKeys = b.listedKeys) : Agree a b := by
  unfold Agree resolve
  rw [h]
  cases b.listedKeys >>= checkKeys with
  | ok keys => exact .inl ⟨keys, rfl, rfl⟩
  | error fault => exact .inr ⟨fault, rfl, rfl⟩

/-- Items that give one key each. -/
theorem map_flatten_mapM_singleton {ε : Type v} {α β : Type u} (f : α → Except ε β) (xs : List α) :
    (xs.mapM fun x => (f x).map ([·])).map List.flatten = xs.mapM f := by
  induction xs with
  | nil => rfl
  | cons x xs ih =>
    rw [List.mapM_cons, List.mapM_cons, ← ih]
    cases f x with
    | error e => rfl
    | ok y => cases xs.mapM fun x => (f x).map ([·]) <;> rfl

theorem itemKeys_pair (pair : String × String) :
    itemKeys (.object [(pair.1, .string pair.2)]) = (pairKey pair).map ([·]) := by
  change [(pair.1, Json.string pair.2)].mapM entryKey = _
  rw [List.mapM_cons]
  change (pairKey pair >>= _) = _
  cases pairKey pair <;> rfl

theorem listedKeys_directed (pairs : List (String × String)) :
    (directed pairs).listedKeys =
      (spelled (.array (pairs.map fun pair => .object [(pair.1, .string pair.2)]))).listedKeys := by
  change _ = (List.mapM itemKeys (pairs.map _)).map List.flatten
  rw [List.mapM_map]
  simp only [Function.comp_def, itemKeys_pair]
  exact (map_flatten_mapM_singleton pairKey pairs).symm

theorem listedKeys_several (names : List String) :
    (several names).listedKeys = (spelled (.array (names.map .string))).listedKeys := by
  let key (name : String) : Except OrderFault SortKey := .ok ⟨name, .ascending⟩
  change .ok _ = (List.mapM itemKeys (names.map _)).map List.flatten
  rw [List.mapM_map]
  refine .trans ?_ (map_flatten_mapM_singleton key names).symm
  exact (List.mapM_pure (m := Except OrderFault)).symm

/-- Pairs of names and directions resolve as the array of objects with one entry, and names as the
array of them. What any specification resolves to is complete and resolves to itself. -/
theorem resolve_agrees (pairs : List (String × String)) (names : List String) :
    Agree (.directed pairs)
        (.spelled (.array (pairs.map fun pair => .object [(pair.1, .string pair.2)]))) ∧
      Agree (.several names) (.spelled (.array (names.map .string))) ∧
      ∀ (spec : OrderSpec) keys, spec.resolve = .ok keys →
        keys ≠ [] ∧ (∀ key ∈ keys, key.name ≠ "") ∧ (resolved keys).resolve = .ok keys := by
  refine ⟨agree_of_listedKeys_eq (listedKeys_directed pairs),
    agree_of_listedKeys_eq (listedKeys_several names), fun spec keys h => ?_⟩
  obtain ⟨-, hcomplete⟩ := resolve_eq_ok.mp h
  exact ⟨hcomplete.1, hcomplete.2, resolve_eq_ok.mpr ⟨rfl, hcomplete⟩⟩

/-- A direction in any case comes out as the key of a mapping, which resolves to itself. -/
theorem resolve_agrees_descending :
    (spelled (.object [("year", .string "DESC")])).resolve = .ok [⟨"year", .descending⟩] ∧
      (resolved [⟨"year", .descending⟩]).resolve = .ok [⟨"year", .descending⟩] := by
  have hnamed : Direction.NamedBy .descending "DESC" := .inl (by simp [Text.AnyCase])
  have hspelled : (spelled (.object [("year", .string "DESC")])).resolve =
      .ok [⟨"year", .descending⟩] :=
    resolve_spelled_eq_ok.mpr ⟨trivial, .cons ⟨rfl, _, rfl, hnamed⟩ .nil, by simp [Complete]⟩
  exact ⟨hspelled, ((resolve_agrees [] []).2.2 _ _ hspelled).2.2⟩

end OrderSpec
end QueryScope
