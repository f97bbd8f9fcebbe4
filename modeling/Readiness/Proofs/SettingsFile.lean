import Readiness.Project.Config

/-!
# What the file of a project can say

The file of a project is a document of any kind. There are three outcomes. Settings come of a
document that says nothing and of a mapping with known keys whose values fit. A fault of the
configuration comes of nearly everything else. But a complaint about unknown keys names them, which
only texts allow: a mapping with a key that is no text ends in a fault that is none of the
configuration.

Each step of the reading is judged on its own: it goes on exactly if the value of its key fits
(`Judges`). A document has every key once, so what is said of the first pair of a key is said of all
of them.
-/

namespace Readiness.Config

open Yaml (Value)

/-! ## Documents that hold settings -/

/-- A text or a list of texts. -/
inductive IsTexts : Value → Prop
  | single (s : Text) : IsTexts (.text s)
  | list {items : List Value} (texts : ∀ v ∈ items, ∃ s, v = .text s) : IsTexts (.sequence items)

/-- What may stand under a known key. -/
def Fits (key : Text) (v : Value) : Prop :=
  if key = "workers" then ∃ n, 0 ≤ n ∧ v = .whole n
  else if key = "backups" then ∃ b, v = .bool b
  else IsTexts v

/-- A document that holds settings, or nothing. -/
inductive Legal : Value → Prop
  | nothing : Legal .null
  | settings {pairs : List (Value × Value)}
    (fits : ∀ p ∈ pairs, ∃ key ∈ keys, p.1 = .text key ∧ Fits key p.2) : Legal (.mapping pairs)

/-- A mapping with a key that is no text. -/
inductive OddlyKeyed : Value → Prop
  | mapping {pairs : List (Value × Value)} {k v : Value} (mem : (k, v) ∈ pairs)
    (odd : ∀ s, k ≠ .text s) : OddlyKeyed (.mapping pairs)

/-! ## Steps of the reading -/

/-- A step that goes on exactly if something holds, and ends in a fault of the configuration if it
does not. -/
structure Judges {α : Type} (r : Except ConfigFault α) (p : Prop) : Prop where
  ok : p → ∃ x, r = .ok x
  fault : ¬ p → ∃ e, r = .error e ∧ e.isConfiguration = true

namespace Judges

variable {α β : Type} {p q : Prop}

theorem of_ok (x : α) (h : p) : Judges (.ok x) p := ⟨fun _ => ⟨x, rfl⟩, fun hn => absurd h hn⟩

theorem of_error {e : ConfigFault} (he : e.isConfiguration = true) (h : ¬ p) :
    Judges (.error e : Except ConfigFault α) p := ⟨fun hp => absurd hp h, fun _ => ⟨e, rfl, he⟩⟩

theorem bind {r : Except ConfigFault α} {f : α → Except ConfigFault β} (h : Judges r p)
    (hf : ∀ x, Judges (f x) q) : Judges (r >>= f) (p ∧ q) := by
  by_cases hp : p
  · obtain ⟨x, rfl⟩ := h.ok hp
    refine ⟨fun hpq => (hf x).ok hpq.2, fun hpq => (hf x).fault fun hq => hpq ⟨hp, hq⟩⟩
  · obtain ⟨e, rfl, he⟩ := h.fault hp
    exact ⟨fun hpq => absurd hpq.1 hp, fun _ => ⟨e, rfl, he⟩⟩

end Judges

theorem texts?_eq_none_iff {values : List Value} :
    texts? values = none ↔ ∃ v ∈ values, ∀ s, v ≠ .text s := by
  unfold texts?
  induction values with
  | nil => simp
  | cons v more ih =>
      simp only [List.mem_cons, exists_eq_or_imp, ← ih, List.mapM_cons]
      generalize List.mapM (m := Option) _ more = found
      cases v with
      | text s => cases found <;> simp
      | _ => simp

theorem judges_strings (file : Path) (key : Text) (v : Value) :
    Judges (strings file key v) (IsTexts v) := by
  cases v with
  | text s => exact .of_ok [s] (.single s)
  | sequence items =>
      rw [strings]
      cases htexts : texts? items with
      | some l =>
          refine .of_ok l (.list fun v hv => Classical.byContradiction fun hodd => ?_)
          have hnone := texts?_eq_none_iff.mpr ⟨v, hv, fun s hs => hodd ⟨s, hs⟩⟩
          rw [htexts] at hnone
          exact Option.some_ne_none l hnone
      | none =>
          obtain ⟨v, hv, hodd⟩ := texts?_eq_none_iff.mp htexts
          refine .of_error rfl fun h => ?_
          cases h with
          | list texts =>
              obtain ⟨s, hs⟩ := texts v hv
              exact hodd s hs
  | _ => exact .of_error rfl fun h => by cases h

section Steps

variable {file : Path} {key : Text} {c : Config} {setting : Option Value} {q : Prop}
  {next : Config → Except ConfigFault Config}

/-- What is not there does not stop the reading. -/
theorem Judges.of_none (h : setting = none) (hnext : Judges (next c) q) :
    Judges (pure c >>= next) ((∀ v, setting = some v → Fits key v) ∧ q) := by
  have hiff : ((∀ v, setting = some v → Fits key v) ∧ q) ↔ q :=
    and_iff_right fun v hv => by cases h.symm.trans hv
  rwa [hiff]

theorem judges_texts {put : List Text → Config} (hfits : ∀ v, Fits key v ↔ IsTexts v)
    (hnext : ∀ c, Judges (next c) q) :
    Judges
      (match setting with
        | none => pure c >>= next
        | some v => strings file key v >>= fun l => pure (put l) >>= next)
      ((∀ v, setting = some v → Fits key v) ∧ q) := by
  cases setting with
  | none => exact .of_none rfl (hnext c)
  | some v =>
      simp only [Option.some.injEq, forall_eq', hfits]
      exact (judges_strings file key v).bind fun l => hnext (put l)

theorem judges_workers {put : Int → Config} (hnext : ∀ c, Judges (next c) q) :
    Judges
      (match setting with
        | none => pure c >>= next
        | some (.whole n) =>
          if n < 0 then throw (.badWorkers file) >>= next else pure (put n) >>= next
        | some _ => throw (.badWorkers file) >>= next)
      ((∀ v, setting = some v → Fits "workers" v) ∧ q) := by
  have hfits (v : Value) : Fits "workers" v ↔ ∃ n, 0 ≤ n ∧ v = .whole n := by
    rw [Fits, if_pos rfl]
  cases setting with
  | none => exact .of_none rfl (hnext c)
  | some v =>
      simp only [Option.some.injEq, forall_eq', hfits]
      cases v with
      | whole n =>
          dsimp only
          split
          · next hneg =>
              refine .of_error rfl fun h => ?_
              obtain ⟨m, hm, heq⟩ := h.1
              cases heq
              omega
          · next hnat =>
              have hnat : ∃ m, 0 ≤ m ∧ Value.whole n = .whole m := ⟨n, Int.not_lt.mp hnat, rfl⟩
              rw [and_iff_right hnat]
              exact hnext (put n)
      | _ => exact .of_error rfl fun h => by simp at h

theorem judges_backups {put : Bool → Config} :
    Judges
      (match setting with
        | none => pure c
        | some (.bool b) => pure (put b)
        | some _ => throw (.badBackups file) : Except ConfigFault Config)
      (∀ v, setting = some v → Fits "backups" v) := by
  have hfits (v : Value) : Fits "backups" v ↔ ∃ b, v = .bool b := by
    rw [Fits, if_neg (by decide), if_pos rfl]
  cases setting with
  | none => exact .of_ok c fun v hv => by cases hv
  | some v =>
      simp only [Option.some.injEq, forall_eq', hfits]
      cases v with
      | bool b => exact .of_ok (put b) ⟨b, rfl⟩
      | _ => exact .of_error rfl fun h => by simp at h

end Steps

/-- The pairs whose keys are texts. -/
def named (pairs : List (Value × Value)) : List (Text × Value) :=
  pairs.filterMap fun (k, v) => match k with
    | .text s => some (s, v)
    | _ => none

/-- The keys that are not known. -/
def unknown (pairs : List (Value × Value)) : List Value :=
  (pairs.map (·.1)).filter fun k => match k with
    | .text s => !keys.contains s
    | _ => true

/-- Without unknown keys it is the values of the known ones that count. -/
theorem judges_apply {pairs : List (Value × Value)} (hknown : unknown pairs = []) (c : Config)
    (file : Path) : Judges (c.apply file pairs)
      (∀ key ∈ keys, ∀ v, (named pairs).lookup key = some v → Fits key v) := by
  have htexts (key : Text) (hworkers : key ≠ "workers") (hbackups : key ≠ "backups") (v : Value) :
      Fits key v ↔ IsTexts v := by
    rw [Fits, if_neg hworkers, if_neg hbackups]
  have hempty : ¬ (!(unknown pairs).isEmpty) = true := by
    rw [hknown]
    decide
  have hlast (p : Prop) : p ↔ p ∧ ∀ key ∈ ([] : List Text), ∀ v,
      (named pairs).lookup key = some v → Fits key v := by simp
  simp only [keys, List.forall_mem_cons, ← hlast]
  dsimp only [apply]
  split
  · next h => exact absurd h hempty
  · refine judges_texts (htexts _ (by decide) (by decide)) fun c => ?_
    refine judges_texts (htexts _ (by decide) (by decide)) fun c => ?_
    refine judges_texts (htexts _ (by decide) (by decide)) fun c => ?_
    refine judges_workers fun c => ?_
    exact judges_backups

/-! ## Unknown keys -/

theorem unknown_eq_nil_iff {pairs : List (Value × Value)} :
    unknown pairs = [] ↔ ∀ p ∈ pairs, ∃ key ∈ keys, p.1 = .text key := by
  unfold unknown
  rw [List.filter_eq_nil_iff, List.forall_mem_map]
  refine forall_congr' fun p => imp_congr_right fun _ => ?_
  cases p.1 with
  | text s => simp
  | _ => simp

/-- Keys that are no texts are unknown. -/
theorem texts?_unknown_eq_none_iff {pairs : List (Value × Value)} :
    texts? (unknown pairs) = none ↔ ∃ p ∈ pairs, ∀ s, p.1 ≠ .text s := by
  rw [texts?_eq_none_iff]
  constructor
  · rintro ⟨k, hk, hodd⟩
    obtain ⟨p, hp, rfl⟩ := List.mem_map.mp (List.mem_filter.mp hk).1
    exact ⟨p, hp, hodd⟩
  · rintro ⟨p, hp, hodd⟩
    refine ⟨p.1, List.mem_filter.mpr ⟨List.mem_map_of_mem hp, ?_⟩, hodd⟩
    cases hkey : p.1 with
    | text s => exact absurd hkey (hodd s)
    | _ => rfl

/-- The complaint about unknown keys is one of the configuration if all of them are texts. -/
theorem complaint_isConfiguration (file : Path) (unknown : List Value) :
    (complaint file unknown).isConfiguration = (texts? unknown).isSome := by
  unfold complaint
  split
  · next h => rw [h]; rfl
  · next h =>
      rw [h]
      split
      · rfl
      · split
        · rfl
        · split
          · split <;> rfl
          · rfl

/-- Where there are unknown keys they are complained about. -/
theorem apply_eq_complaint {pairs : List (Value × Value)} (h : unknown pairs ≠ []) (c : Config)
    (file : Path) : c.apply file pairs = .error (complaint file (unknown pairs)) := by
  have hfound : (!(unknown pairs).isEmpty) = true := by
    rw [Bool.not_eq_true', List.isEmpty_eq_false_iff]
    exact h
  unfold apply
  dsimp only
  split
  · rfl
  · next hnone => exact absurd hfound hnone

/-! ## A document has every key once -/

/-- The keys of pairs that are texts. -/
def names (pairs : List (Value × Value)) : List Text := (named pairs).map (·.1)

theorem names_cons (k v : Value) (pairs : List (Value × Value)) :
    names ((k, v) :: pairs) = names [(k, v)] ++ names pairs := by
  cases k <;> rfl

theorem names_setPair (pairs : List (Value × Value)) (k v : Value) :
    names (Value.setPair pairs k v) = names pairs ∨
      ∃ s, k = .text s ∧ s ∉ names pairs ∧
        names (Value.setPair pairs k v) = names pairs ++ [s] := by
  induction pairs with
  | nil =>
      cases k with
      | text s => exact .inr ⟨s, rfl, List.not_mem_nil, rfl⟩
      | _ => exact .inl rfl
  | cons p more ih =>
      obtain ⟨k', v'⟩ := p
      rw [Value.setPair]
      split
      · exact .inl (by rw [names_cons, names_cons k' v']; cases k' <;> rfl)
      · next hother =>
          rw [names_cons k' v' (Value.setPair more k v), names_cons k' v' more]
          refine ih.imp (fun h => by rw [h]) ?_
          rintro ⟨s, rfl, hs, h⟩
          refine ⟨s, rfl, fun hmem => ?_, by rw [h, List.append_assoc]⟩
          rcases List.mem_append.mp hmem with hmem | hmem
          · cases k' with
            | text s' =>
                obtain rfl := List.mem_singleton.mp hmem
                exact hother (by rw [Value.sameKey]; exact beq_self_eq_true s)
            | _ => exact absurd hmem List.not_mem_nil
          · exact hs hmem

theorem nodup_once (pairs : List (Value × Value)) : (names (Value.once pairs)).Nodup := by
  have hstep {done : List (Value × Value)} (h : (names done).Nodup) (k v : Value) :
      (names (Value.setPair done k v)).Nodup := by
    rcases names_setPair done k v with hsame | ⟨s, -, hs, hmore⟩
    · rwa [hsame]
    · rw [hmore]
      exact List.nodup_append.mpr ⟨h, by simp, by
        rintro a ha b hb rfl
        exact hs (List.mem_singleton.mp hb ▸ ha)⟩
  have hrun : ∀ (more done : List (Value × Value)), (names done).Nodup →
      (names (more.foldl (fun done (k, v) => Value.setPair done k v) done)).Nodup := by
    intro more
    induction more with
    | nil => exact fun _ h => h
    | cons p more ih => exact fun done h => ih _ (hstep h p.1 p.2)
  exact hrun pairs [] List.nodup_nil

theorem scalarValue_ne_mapping (kind : Option Yaml.ScalarKind) (t : Text)
    (pairs : List (Value × Value)) : Yaml.scalarValue kind t ≠ .ok (.mapping pairs) := by
  have hmap {α : Type} (r : Except Yaml.Fault α) (f : α → Value) (hf : ∀ x, f x ≠ .mapping pairs) :
      (r >>= fun x => pure (f x)) ≠ .ok (.mapping pairs) := by
    cases r with
    | error e => exact fun h => by cases h
    | ok x => exact fun h => hf x (Except.ok.inj h)
  unfold Yaml.scalarValue
  split
  · simp
  · exact hmap _ _ fun _ => by simp
  · exact hmap _ _ fun _ => by simp
  · exact hmap _ _ fun _ => by simp
  · simp
  · unfold Yaml.dateOf
    dsimp only
    repeat' split
    all_goals simp
  · simp
  · simp

/-- The pairs of a mapping are brought to one for each key. -/
theorem nodup_of_ofNode {x : Yaml.Node} {pairs : List (Value × Value)}
    (h : Value.ofNode x = .ok (.mapping pairs)) : (names pairs).Nodup := by
  cases x with
  | scalar tag plain t =>
      rw [Value.ofNode] at h
      exact absurd h (scalarValue_ne_mapping _ _ _)
  | sequence tag items =>
      rw [Value.ofNode] at h
      split at h
      · cases hitems : Value.ofNodes items with
        | error e => rw [hitems] at h; cases h
        | ok l => rw [hitems] at h; cases h
      · split at h
        · cases hitems : Value.ofSinglePairs items with
          | error e => rw [hitems] at h; cases h
          | ok l => rw [hitems] at h; cases h
        · cases h
  | mapping tag given =>
      rw [Value.ofNode] at h
      cases hpairs : Value.ofPairs given with
      | error e => rw [hpairs] at h; cases h
      | ok found =>
          rw [hpairs] at h
          change (if _ then _ else _) = _ at h
          split at h
          · cases h
            exact nodup_once _
          · split at h
            · cases h
            · cases h
  | ring kind =>
      cases kind with
      | sequence => rw [Value.ofNode] at h; cases h
      | mapping => rw [Value.ofNode] at h; cases h; exact List.nodup_nil

theorem nodup_of_read {t : Text} {pairs : List (Value × Value)}
    (h : Value.read t = .ok (.mapping pairs)) : (names pairs).Nodup := by
  rw [Value.read] at h
  cases hscan : Yaml.Token.scan t with
  | error e => rw [hscan] at h; cases h
  | ok tokens =>
      rw [hscan] at h
      change (Yaml.Node.ofTokens tokens >>= _) = _ at h
      cases hnode : Yaml.Node.ofTokens tokens with
      | error e => rw [hnode] at h; cases h
      | ok found =>
          rw [hnode] at h
          cases found with
          | none => cases h
          | some x => exact nodup_of_ofNode h

/-! ## Outcomes -/

/-- What a document says about a configuration. -/
def ofDocument (c : Config) (file : Path) : Value → Except ConfigFault Config
  | .null => .ok c
  | .mapping pairs => c.apply file pairs
  | _ => .error (.notMapping file)

theorem withFile_eq {w : Workspace} {c : Config} {file : Path} {t : Text} {v : Value}
    (hfile : file? w c.root = some file) (hread : w.read file = .ok t)
    (hvalue : Value.read t = .ok v) : withFile w c = ofDocument c file v := by
  unfold withFile
  rw [hfile]
  dsimp only
  rw [hread]
  change ((Value.read t).mapError (ConfigFault.yaml file) >>= _) = _
  rw [hvalue]
  cases v <;> rfl

theorem mem_named {pairs : List (Value × Value)} {key : Text} {v : Value} :
    (key, v) ∈ named pairs ↔ (.text key, v) ∈ pairs := by
  rw [named, List.mem_filterMap]
  constructor
  · rintro ⟨⟨k, w⟩, hmem, hk⟩
    cases k with
    | text s =>
        obtain ⟨rfl, rfl⟩ := Prod.mk.inj (Option.some.inj hk)
        exact hmem
    | _ => cases hk
  · exact fun hmem => ⟨_, hmem, rfl⟩

/-- In a document a key leads to every pair that it is in. -/
theorem lookup_named_iff {pairs : List (Value × Value)} (h : (names pairs).Nodup) {key : Text}
    {v : Value} : (named pairs).lookup key = some v ↔ (.text key, v) ∈ pairs := by
  rw [← mem_named]
  rw [names] at h
  generalize named pairs = found at h
  induction found with
  | nil => simp
  | cons p more ih =>
      obtain ⟨k, w⟩ := p
      rw [List.map_cons, List.nodup_cons] at h
      rw [List.lookup_cons, List.mem_cons, Prod.mk.injEq]
      by_cases hkey : key = k
      · subst hkey
        have hmore : (key, v) ∉ more := fun hmem =>
          h.1 (List.mem_map.mpr ⟨_, hmem, rfl⟩)
        simp only [beq_self_eq_true, Option.some.injEq, hmore, true_and, or_false]
        exact eq_comm
      · rw [beq_eq_false_iff_ne.mpr hkey]
        simp only [hkey, false_and, false_or]
        exact ih h.2

/-- A document with settings has known keys only, and what they lead to fits. -/
theorem legal_mapping_iff {pairs : List (Value × Value)} (h : (names pairs).Nodup) :
    Legal (.mapping pairs) ↔ unknown pairs = [] ∧
      ∀ key ∈ keys, ∀ v, (named pairs).lookup key = some v → Fits key v := by
  rw [unknown_eq_nil_iff]
  constructor
  · rintro (_ | hfits)
    refine ⟨fun p hp => ?_, fun key _ v hv => ?_⟩
    · obtain ⟨key, hkey, hp, -⟩ := hfits p hp
      exact ⟨key, hkey, hp⟩
    · obtain ⟨key', -, hkey, hv⟩ := hfits _ ((lookup_named_iff h).mp hv)
      cases hkey
      exact hv
  · rintro ⟨hknown, hfits⟩
    refine .settings fun p hp => ?_
    obtain ⟨key, hkey, hp'⟩ := hknown p hp
    refine ⟨key, hkey, hp', hfits key hkey p.2 ((lookup_named_iff h).mpr ?_)⟩
    rw [← hp']
    exact hp

theorem OddlyKeyed.not_legal {v : Value} (h : OddlyKeyed v) : ¬ Legal v := by
  cases h with
  | mapping mem odd =>
      rintro (_ | hfits)
      obtain ⟨key, -, hkey, -⟩ := hfits _ mem
      exact odd key hkey

theorem oddlyKeyed_mapping_iff {pairs : List (Value × Value)} :
    OddlyKeyed (.mapping pairs) ↔ texts? (unknown pairs) = none := by
  rw [texts?_unknown_eq_none_iff]
  constructor
  · rintro ⟨mem, odd⟩
    exact ⟨_, mem, odd⟩
  · rintro ⟨p, hp, hodd⟩
    exact .mapping hp hodd

/-- The outcome for every document: settings, a fault of the configuration, or another fault. -/
theorem ofDocument_outcome {v : Value} (hnames : ∀ pairs, v = .mapping pairs → (names pairs).Nodup)
    (c : Config) (file : Path) : (Legal v ∧ ∃ c', ofDocument c file v = .ok c') ∨
      (¬ Legal v ∧ ¬ OddlyKeyed v ∧
        ∃ e, ofDocument c file v = .error e ∧ e.isConfiguration = true) ∨
      (OddlyKeyed v ∧ ∃ e, ofDocument c file v = .error e ∧ e.isConfiguration = false) := by
  cases v with
  | null => exact .inl ⟨.nothing, c, rfl⟩
  | mapping pairs =>
      have hlegal := legal_mapping_iff (hnames pairs rfl)
      by_cases hknown : unknown pairs = []
      · have hodd : ¬ OddlyKeyed (.mapping pairs) := by
          rw [oddlyKeyed_mapping_iff, hknown]
          exact fun h => by cases h
        have happly := judges_apply hknown c file
        by_cases hfits : ∀ key ∈ keys, ∀ v, (named pairs).lookup key = some v → Fits key v
        · exact .inl ⟨hlegal.mpr ⟨hknown, hfits⟩, happly.ok hfits⟩
        · exact .inr (.inl ⟨fun h => hfits (hlegal.mp h).2, hodd, happly.fault hfits⟩)
      · have hnot : ¬ Legal (.mapping pairs) := fun h => hknown (hlegal.mp h).1
        have happly := apply_eq_complaint hknown c file
        have hkind := complaint_isConfiguration file (unknown pairs)
        by_cases htexts : texts? (unknown pairs) = none
        · rw [htexts] at hkind
          exact .inr (.inr ⟨oddlyKeyed_mapping_iff.mpr htexts, _, happly, hkind⟩)
        · rw [Option.isSome_iff_ne_none.mpr htexts] at hkind
          refine .inr (.inl ⟨hnot, ?_, _, happly, hkind⟩)
          rwa [oddlyKeyed_mapping_iff]
  | _ => exact .inr (.inl ⟨(fun h => by cases h), (fun h => by cases h), _, rfl, rfl⟩)

/-- The file of a project yields settings exactly if its document is legal, and a fault that is none
of the configuration exactly if the document is a mapping with a key that is no text. -/
theorem withFile_outcome {w : Workspace} {c : Config} {file : Path} {t : Text} {v : Value}
    (hfile : file? w c.root = some file) (hread : w.read file = .ok t)
    (hvalue : Value.read t = .ok v) :
    ((∃ c', withFile w c = .ok c') ↔ Legal v) ∧
      ((∃ e, withFile w c = .error e ∧ e.isConfiguration = true) ↔
        ¬ Legal v ∧ ¬ OddlyKeyed v) ∧
      ((∃ e, withFile w c = .error e ∧ e.isConfiguration = false) ↔ OddlyKeyed v) := by
  have hnames : ∀ pairs, v = .mapping pairs → (names pairs).Nodup := by
    rintro pairs rfl
    exact nodup_of_read hvalue
  rw [withFile_eq hfile hread hvalue]
  rcases ofDocument_outcome hnames c file with
    ⟨hlegal, c', hok⟩ | ⟨hlegal, hodd, e, herror, he⟩ | ⟨hodd, e, herror, he⟩
  · have hodd : ¬ OddlyKeyed v := fun h => h.not_legal hlegal
    simp [hok, hlegal, hodd]
  · simp [herror, hlegal, hodd, he]
  · simp [herror, hodd.not_legal, hodd, he]

/-! A folder whose file is given. -/

namespace Sample

def root : Path := ⟨.top, ["p"]⟩

def file : Path := ⟨.top, ["p", ".prodready.yml"]⟩

def workspace (t : Text) : Workspace :=
  ⟨⟨[(["p"], .folder), (["p", ".prodready.yml"], .file t.utf8)]⟩, []⟩

theorem found (t : Text) : file? (workspace t) root = some file := rfl

/-- Whether the number of workers is all that was read, and is two. -/
def givesTwo {ε : Type} : Except ε Value → Bool
  | .ok (.mapping [(.text key, .whole n)]) => key == "workers" && n == 2
  | _ => false

/-- Whether a number was read for the only key. -/
def givesNumber {ε : Type} : Except ε Value → Bool
  | .ok (.mapping [(.whole _, _)]) => true
  | _ => false

end Sample

theorem withFile_outcome_sample :
    ∃ v, file? (Sample.workspace "workers: 2") Sample.root = some Sample.file ∧
      (Sample.workspace "workers: 2").read Sample.file = .ok "workers: 2" ∧
      Value.read "workers: 2" = .ok v ∧ Legal v ∧
      ∃ c', withFile (Sample.workspace "workers: 2") { root := Sample.root } = .ok c' := by
  have hread : (Sample.workspace "workers: 2").read Sample.file = .ok "workers: 2" := rfl
  have hshape : Sample.givesTwo (Value.read "workers: 2") = true := by decide +kernel
  unfold Sample.givesTwo at hshape
  split at hshape
  · next key n hvalue =>
      rw [Bool.and_eq_true, beq_iff_eq, beq_iff_eq] at hshape
      obtain ⟨rfl, rfl⟩ := hshape
      have hfits : Fits "workers" (.whole 2) := by
        rw [Fits, if_pos rfl]
        exact ⟨2, by decide, rfl⟩
      have hlegal : Legal (.mapping [(.text "workers", .whole 2)]) :=
        .settings (List.forall_mem_singleton.mpr ⟨"workers", by decide, rfl, hfits⟩)
      exact ⟨_, Sample.found _, hread, hvalue, hlegal,
        (withFile_outcome (Sample.found _) hread hvalue).1.mpr hlegal⟩
  · exact absurd hshape Bool.false_ne_true

/-- A number for a key ends in a fault that is none of the configuration. -/
theorem odd_key_uncaught :
    (∃ v, Value.read "1: a" = .ok v) ∧
      withFile (Sample.workspace "1: a") { root := Sample.root } = .error (.oddKey "int") ∧
      (ConfigFault.oddKey "int").isConfiguration = false := by
  have hread : (Sample.workspace "1: a").read Sample.file = .ok "1: a" := rfl
  have hshape : Sample.givesNumber (Value.read "1: a") = true := by decide +kernel
  unfold Sample.givesNumber at hshape
  split at hshape
  · next n v hvalue =>
      refine ⟨⟨_, hvalue⟩, ?_, rfl⟩
      rw [withFile_eq (Sample.found _) hread hvalue]
      rfl
  · exact absurd hshape Bool.false_ne_true

end Readiness.Config
