import RasterTensor.Proofs.Settings.Keys

/-!
# Settings in any order

Settings are made from the value at each name and from the texts of the keys that name no setting.
Neither depends on the order of the entries, nor on entries without a value at names that may be
left out. So mappings with the same entries otherwise make the same settings, or fail in the same
way. There is one exception: of several keys without a text the first one counts, and two of them
can be without one for different reasons.
-/

namespace RasterTensor

open Document

namespace Document.Entries

variable {entries : Entries} {name : String} {key v : Value}

/-! ## Mappings -/

/-- No key stands twice. -/
def Distinct (entries : Entries) : Prop :=
  entries.Pairwise fun entry other => entry.1.sameKey other.1 = false

theorem fst_mem_of_mem_put {entry : Value × Value} (h : entry ∈ entries.put key v) :
    entry.1 = key ∧ (∀ other ∈ entries, other.1.sameKey key = false) ∨
      ∃ other ∈ entries, other.1 = entry.1 := by
  induction entries with
  | nil =>
      rw [put, List.mem_singleton] at h
      exact .inl ⟨congrArg Prod.fst h, List.forall_mem_nil _⟩
  | cons first rest ih =>
      obtain ⟨k, w⟩ := first
      rw [put] at h
      split at h
      · rcases List.mem_cons.mp h with rfl | hrest
        · exact .inr ⟨(k, w), List.mem_cons_self, rfl⟩
        · exact .inr ⟨entry, List.mem_cons_of_mem _ hrest, rfl⟩
      · next hk =>
        rcases List.mem_cons.mp h with rfl | hrest
        · exact .inr ⟨(k, w), List.mem_cons_self, rfl⟩
        · rcases ih hrest with ⟨hkey, hnew⟩ | ⟨other, hother, heq⟩
          · exact .inl ⟨hkey, List.forall_mem_cons.mpr ⟨by simpa using hk, hnew⟩⟩
          · exact .inr ⟨other, List.mem_cons_of_mem _ hother, heq⟩

theorem Distinct.put (h : entries.Distinct) (key v : Value) : (entries.put key v).Distinct := by
  induction entries with
  | nil => exact List.pairwise_singleton _ _
  | cons first rest ih =>
      obtain ⟨k, w⟩ := first
      obtain ⟨hfirst, hrest⟩ := List.pairwise_cons.mp h
      rw [Entries.put]
      split
      · exact List.pairwise_cons.mpr ⟨hfirst, hrest⟩
      · next hk =>
        refine List.pairwise_cons.mpr ⟨?_, ih hrest⟩
        intro entry hentry
        rcases fst_mem_of_mem_put hentry with ⟨hkey, -⟩ | ⟨other, hother, heq⟩
        · rw [hkey]
          simpa using hk
        · rw [← heq]
          exact hfirst other hother

theorem distinct_ofList (pairs : List (Value × Value)) : (ofList pairs).Distinct := by
  suffices hfold : ∀ entries : Entries, entries.Distinct →
      (pairs.foldl (fun entries pair => put pair.1 pair.2 entries) entries).Distinct from
    hfold [] List.Pairwise.nil
  induction pairs with
  | nil => exact fun _ h => h
  | cons pair rest ih => exact fun entries h => ih _ (h.put pair.1 pair.2)

theorem Distinct.field?_eq_some_iff (h : entries.Distinct) :
    field? name entries = some v ↔ (Value.text name, v) ∈ entries := by
  refine ⟨mem_of_field?, ?_⟩
  intro hmem
  unfold field?
  induction entries with
  | nil => cases hmem
  | cons first rest ih =>
      obtain ⟨k, w⟩ := first
      obtain ⟨hfirst, hrest⟩ := List.pairwise_cons.mp h
      rw [find?]
      rcases List.mem_cons.mp hmem with heq | hmem
      · cases heq
        rw [if_pos (Value.sameKey_text_iff.mpr rfl)]
      · have hne : k.sameKey (.text name) = false := hfirst _ hmem
        rw [if_neg (by simp [hne])]
        exact ih hrest hmem

end Document.Entries

namespace Settings

variable {reach : Reach} {entries entries' : Entries} {name : String} {v : Value} {e e' : TextFault}

/-! ## Entries that stand for nothing -/

/-- Names of settings that have a default. -/
def optionalNames : List String := names.filter fun name => !requiredNames.contains name

example : optionalNames = ["element_type", "width", "height", "layout"] := by decide

/-- No value, at a name that may be left out. -/
def isVoid (entry : Value × Value) : Bool :=
  optionalNames.any (fun name => entry.1.sameKey (.text name)) && entry.2.isNull

/-- The same entries in some order, void ones apart. -/
def SameEntries (entries entries' : Entries) : Prop :=
  (entries.filter fun entry => !isVoid entry).Perm (entries'.filter fun entry => !isVoid entry)

theorem isKnown_of_isVoid {entry : Value × Value} (h : isVoid entry = true) :
    isKnown entry.1 = true := by
  obtain ⟨hname, -⟩ := Bool.and_eq_true_iff.mp h
  obtain ⟨name, hmem, hkey⟩ := List.any_eq_true.mp hname
  exact List.any_eq_true.mpr ⟨name, List.mem_of_mem_filter hmem, hkey⟩

theorem isVoid_of_isNull_eq_false {entry : Value × Value} (h : entry.2.isNull = false) :
    isVoid entry = false := by
  rw [isVoid, h, Bool.and_false]

/-! ## What settings are made from -/

theorem fieldValue?_eq_some_iff (h : entries.Distinct) :
    fieldValue? name entries = some v ↔
      (Value.text name, v) ∈ entries.filter (fun entry => !isVoid entry) ∧ v.isNull = false := by
  rw [fieldValue?, Option.filter_eq_some_iff, h.field?_eq_some_iff, List.mem_filter]
  constructor
  · rintro ⟨hmem, hvalue⟩
    have hnull : v.isNull = false := by simpa using hvalue
    exact ⟨⟨hmem, by rw [isVoid_of_isNull_eq_false hnull]; rfl⟩, hnull⟩
  · rintro ⟨⟨hmem, -⟩, hnull⟩
    exact ⟨hmem, by simpa using hnull⟩

theorem SameEntries.fieldValue?_eq (hsame : SameEntries entries entries') (h : entries.Distinct)
    (h' : entries'.Distinct) (name : String) :
    fieldValue? name entries = fieldValue? name entries' := by
  apply Option.ext
  intro v
  rw [fieldValue?_eq_some_iff h, fieldValue?_eq_some_iff h', hsame.mem_iff]

theorem unknownKeys_filter_isVoid (entries : Entries) :
    unknownKeys (entries.filter fun entry => !isVoid entry) = unknownKeys entries := by
  unfold unknownKeys
  rw [List.filter_map, List.filter_map, List.filter_filter]
  congr 1
  apply List.filter_congr
  intro entry _
  cases hvoid : isVoid entry with
  | true => simp [isKnown_of_isVoid hvoid]
  | false => simp

theorem SameEntries.unknownKeys_perm (hsame : SameEntries entries entries') :
    (unknownKeys entries).Perm (unknownKeys entries') := by
  rw [← unknownKeys_filter_isVoid entries, ← unknownKeys_filter_isVoid entries']
  exact Settings.unknownKeys_perm hsame

theorem sortTexts_perm {texts texts' : List String} (h : texts.Perm texts') :
    sortTexts texts = sortTexts texts' := by
  have hsorted (texts : List String) : (sortTexts texts).Pairwise (· ≤ ·) := by
    refine (List.pairwise_mergeSort ?_ ?_ texts).imp fun hle => ?_
    · intro s t u hst htu
      simp only [Bool.not_eq_true', decide_eq_false_iff_not, String.not_lt] at hst htu ⊢
      exact String.le_trans hst htu
    · intro s t
      simpa only [Bool.or_eq_true, Bool.not_eq_true', decide_eq_false_iff_not, String.not_lt] using
        String.le_total s t
    · simpa only [Bool.not_eq_true', decide_eq_false_iff_not, String.not_lt] using hle
  have hperm : (sortTexts texts).Perm (sortTexts texts') :=
    (List.mergeSort_perm _ _).trans (h.trans (List.mergeSort_perm _ _).symm)
  exact hperm.eq_of_pairwise (fun _ _ _ _ => String.le_antisymm) (hsorted _) (hsorted _)

/-! ## The texts of unknown keys -/

/-- The first of the unknown keys without a text, and why it has none. -/
def FirstFault (reach : Reach) (entries : Entries) (e : TextFault) : Prop :=
  ∃ front key back, unknownKeys entries = front ++ key :: back ∧
    (∀ other ∈ front, ∃ text, other.plain reach.key = .ok text) ∧ key.plain reach.key = .error e

theorem checkKeys_of_fault (h : (unknownKeys entries).mapM (·.plain reach.key) = .error e) :
    checkKeys reach entries = .error (.ofTextFault e) := by
  rw [checkKeys, h]
  rfl

theorem checkKeys_of_texts {texts : List String}
    (h : (unknownKeys entries).mapM (·.plain reach.key) = .ok texts) :
    checkKeys reach entries =
      if texts.isEmpty then .ok () else .error (.unknownKeys (sortTexts texts)) := by
  rw [checkKeys, h]
  cases texts <;> rfl

/-- Sorted texts are the same in any order of the keys, so only a key without a text makes the order
count. -/
theorem checkKeys_perm (h : (unknownKeys entries).Perm (unknownKeys entries')) :
    checkKeys reach entries = checkKeys reach entries' ∨
      ∃ e e', e ≠ e' ∧ FirstFault reach entries e ∧ FirstFault reach entries' e' ∧
        checkKeys reach entries = .error (.ofTextFault e) ∧
        checkKeys reach entries' = .error (.ofTextFault e') := by
  cases htexts : (unknownKeys entries).mapM (·.plain reach.key) with
  | ok texts =>
      obtain ⟨texts', htexts', hperm⟩ := mapM_perm h htexts
      left
      rw [checkKeys_of_texts htexts, checkKeys_of_texts htexts', hperm.isEmpty_eq,
        sortTexts_perm hperm]
  | error e =>
      cases htexts' : (unknownKeys entries').mapM (·.plain reach.key) with
      | ok texts' =>
          obtain ⟨texts, hok, -⟩ := mapM_perm h.symm htexts'
          cases htexts.symm.trans hok
      | error e' =>
          have hkeys := checkKeys_of_fault htexts
          have hkeys' := checkKeys_of_fault htexts'
          by_cases hsame : e = e'
          · left
            rw [hkeys, hkeys', hsame]
          · exact .inr ⟨e, e', hsame, exists_of_mapM_error htexts, exists_of_mapM_error htexts',
              hkeys, hkeys'⟩

/-! ## Settings from the same entries -/

theorem ofValue_of_checkKeys {f : Failure} (h : checkKeys reach entries = .error f) :
    ofValue reach (.mapping entries) = .error f := by
  rw [ofValue, ofEntries, h]
  rfl

/-- Which settings a mapping makes, or how it fails, is not a matter of the order of its entries or
of entries without a value at names that may be left out. Only where two unknown keys are without
a text for different reasons, and another of them comes first, the failure is another. -/
theorem ofValue_of_sameEntries (reach : Reach) (h : entries.Distinct) (h' : entries'.Distinct)
    (hsame : SameEntries entries entries') :
    ofValue reach (.mapping entries) = ofValue reach (.mapping entries') ∨
      ∃ e e', e ≠ e' ∧ FirstFault reach entries e ∧ FirstFault reach entries' e' ∧
        ofValue reach (.mapping entries) = .error (.ofTextFault e) ∧
        ofValue reach (.mapping entries') = .error (.ofTextFault e') := by
  have hfields := hsame.fieldValue?_eq h h'
  have hkeys : checkKeys reach entries = _ ∨ _ := checkKeys_perm hsame.unknownKeys_perm
  rcases hkeys with
    hkeys | ⟨e, e', hne, hfirst, hfirst', hkeys, hkeys'⟩
  · left
    simp only [ofValue, ofEntries, requiredValue, hkeys, hfields]
  · exact .inr ⟨e, e', hne, hfirst, hfirst', ofValue_of_checkKeys hkeys,
      ofValue_of_checkKeys hkeys'⟩

def misnamed : Entries :=
  .ofList [(.text "zeta", .int 1), (.text "width", .null), (.text "alpha", .null),
    (.text "input_path", .text "in.png")]

def misnamedReversed : Entries :=
  .ofList [(.text "layout", .null), (.text "input_path", .text "in.png"), (.text "alpha", .null),
    (.text "height", .null), (.text "zeta", .int 1)]

theorem ofValue_of_sameEntries_misnamed :
    misnamed.Distinct ∧ misnamedReversed.Distinct ∧ SameEntries misnamed misnamedReversed ∧
      ofValue .flat (.mapping misnamed) = ofValue .flat (.mapping misnamedReversed) := by
  have hdistinct : misnamed.Distinct := Entries.distinct_ofList _
  have hdistinct' : misnamedReversed.Distinct := Entries.distinct_ofList _
  have hsame : SameEntries misnamed misnamedReversed :=
    List.reverse_perm (misnamedReversed.filter fun entry => !isVoid entry)
  refine ⟨hdistinct, hdistinct', hsame, ?_⟩
  rcases ofValue_of_sameEntries .flat hdistinct hdistinct' hsame with
    heq | ⟨e, e', -, -, -, hfault, -⟩
  · exact heq
  · cases e <;> cases hfault

def nestedTuple : Nat → Value
  | 0 => .tuple []
  | n + 1 => .tuple [nestedTuple n]

theorem shown_nestedTuple {n depth : Nat} (h : depth < n) :
    (nestedTuple n).shown depth = .error .nested := by
  induction n generalizing depth with
  | zero => exact absurd h (Nat.not_lt_zero _)
  | succ n ih =>
      rw [nestedTuple, Value.shown]
      cases depth with
      | zero => rfl
      | succ depth =>
          rw [Value.shown.shownAll, ih (Nat.lt_of_succ_lt_succ h)]
          rfl

theorem sameKey_nestedTuple_int (n : Nat) (i : Int) :
    (nestedTuple (n + 1)).sameKey (.int i) = false := rfl

theorem sameKey_int_nestedTuple (i : Int) (n : Nat) :
    (Value.int i).sameKey (nestedTuple (n + 1)) = false := rfl

/-- Two keys without a text: a tuple that is too deep, and an integer of too many digits. -/
def deepFirst (reach : Reach) : Entries :=
  [(nestedTuple (reach.key + 1), .null), (.int Decimal.integerLimit, .null)]

def longFirst (reach : Reach) : Entries :=
  [(.int Decimal.integerLimit, .null), (nestedTuple (reach.key + 1), .null)]

theorem ofValue_deepFirst (reach : Reach) :
    ofValue reach (.mapping (deepFirst reach)) = .error (.ofTextFault .nested) := by
  have hkeys : unknownKeys (deepFirst reach) =
      [nestedTuple (reach.key + 1), .int Decimal.integerLimit] := rfl
  have hplain : (nestedTuple (reach.key + 1)).plain reach.key = .error .nested :=
    shown_nestedTuple (Nat.lt_succ_self _)
  refine ofValue_of_checkKeys (checkKeys_of_fault ?_)
  rw [hkeys, List.mapM_cons, hplain]
  rfl

theorem ofValue_longFirst (reach : Reach) :
    ofValue reach (.mapping (longFirst reach)) = .error (.ofTextFault .integerTooLong) := by
  have hkeys : unknownKeys (longFirst reach) =
      [.int Decimal.integerLimit, nestedTuple (reach.key + 1)] := rfl
  have hplain : (Value.int Decimal.integerLimit).plain reach.key = .error .integerTooLong := by
    have hlong : ¬ (Decimal.integerLimit : Int).natAbs < Decimal.integerLimit := by
      rw [Int.natAbs_natCast]
      exact Nat.lt_irrefl _
    simp only [Value.plain, Value.shown, integerShown, if_neg hlong]
  refine ofValue_of_checkKeys (checkKeys_of_fault ?_)
  rw [hkeys, List.mapM_cons, hplain]
  rfl

/-- Two such keys fail in one way or the other by their order, however far members are followed. -/
theorem not_forall_ofValue_eq_of_sameEntries :
    ¬ ∃ reach, ∀ entries entries' : Entries, entries.Distinct → entries'.Distinct →
      SameEntries entries entries' →
        ofValue reach (.mapping entries) = ofValue reach (.mapping entries') := by
  rintro ⟨reach, hall⟩
  have hdistinct : (deepFirst reach).Distinct :=
    List.pairwise_pair.mpr (sameKey_nestedTuple_int reach.key _)
  have hdistinct' : (longFirst reach).Distinct :=
    List.pairwise_pair.mpr (sameKey_int_nestedTuple _ reach.key)
  have hsame : SameEntries (deepFirst reach) (longFirst reach) := (List.Perm.swap _ _ _).filter _
  have heq := hall _ _ hdistinct hdistinct' hsame
  rw [ofValue_deepFirst, ofValue_longFirst] at heq
  cases heq

end Settings

end RasterTensor
