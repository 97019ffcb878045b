import SnapshotQuery.Proofs.OrderedMap
import SnapshotQuery.Proofs.Text.Reading
import SnapshotQuery.Query.Config

/-!
# Encoded configurations

An object that gives settings of a configuration, in any order and among keys
that are no settings, is read as that configuration with the default for every
setting it leaves out.
-/

namespace SnapshotQuery

namespace Decoder

variable {Item : Type} {variants : List (String × Variant Item)} {name : String}

theorem unsigned_nat {bound number : Nat} (small : number < bound) (name : String) :
    unsigned bound name (Outline.ofValue (.nat number)) = .ok number := by
  have range : (0 : Int) ≤ number ∧ (number : Int) < bound := by omega
  exact if_pos range

theorem orNull_nat {decoder : Decoder Item} {number : Nat} {item : Item}
    (read : decoder (.ofValue (.nat number)) = .ok item) :
    orNull decoder (.ofValue (.nat number)) = .ok (some item) :=
  congrArg (Except.map some) read

theorem oneOf_plain {item : Item} (listed : variants.lookup name = some (.plain item)) :
    oneOf variants (.string (some name)) = .ok item := by
  simp [oneOf, variantNamed, listed, Variant.ofName, bind, Except.bind]

theorem oneOf_carrying {decoder : Decoder Item} {item : Item} {data : Outline}
    (listed : variants.lookup name = some (.carrying decoder)) (read : decoder data = .ok item) :
    oneOf variants (.object [(some name, data)] true) = .ok item := by
  simp [oneOf, variantNamed, listed, Variant.ofData, read, bind, Except.bind]

theorem decoder_of_ofText {decoder : Decoder Item} {text : String} {item : Item}
    (read : ofText decoder text = .ok item) : decoder (Outline.ofText text).1 = .ok item := by
  simp only [ofText] at read
  split at read
  · rename_i found decoded
    split_ifs at read
    exact Except.ok.inj read ▸ decoded
  · cases read

theorem stored_of_ok {Draft : Type} {store : Item → Draft} {result : Except DecodeError Item}
    {next : Draft} (read : (do return store (← result)) = Except.ok next) :
    ∃ item, result = .ok item ∧ next = store item := by
  cases result with
  | error problem => cases read
  | ok item => exact ⟨item, rfl, (Except.ok.inj read).symm⟩

end Decoder

/-- A field that is read for the first time. -/
theorem RecordForm.ofFields_known {Draft Item : Type} {form : RecordForm Draft} {draft : Draft}
    {key : String} {field : DraftField Draft} {decoder : Decoder Item} {store : Item → Draft}
    {item : Item} {value : Outline} {rest : List (Option String × Outline)}
    (known : (form.fields.find? fun field => field.name = key) = some field)
    (fresh : field.given draft = false)
    (reads : field.read draft = fun outline => do return store (← decoder outline))
    (read : decoder value = .ok item) :
    form.ofFields draft ((some key, value) :: rest) = form.ofFields (store item) rest := by
  simp [ofFields, known, fresh, reads, read, bind, Except.bind, pure, Except.pure]

theorem Outline.ofFields_eq_map (fields : List (String × Value)) :
    ofValue.ofFields fields = fields.map fun field => (some field.1, ofValue field.2) := by
  induction fields with
  | nil => rfl
  | cons field rest inductionHypothesis =>
      rw [ofValue.ofFields, List.map_cons, inductionHypothesis]

theorem Value.floatFree_object {fields : List (String × Value)}
    (free : ∀ field ∈ fields, field.2.FloatFree) : (object fields).FloatFree := by
  rw [FloatFree]
  induction fields with
  | nil => exact trivial
  | cons field rest inductionHypothesis =>
      obtain ⟨first, others⟩ := List.forall_mem_cons.mp free
      exact ⟨first, inductionHypothesis others⟩

/-- What reading one member of an object came to. -/
theorem RecordForm.ofFields_ok {Draft : Type} {form : RecordForm Draft} {before after : Draft}
    {key : String} {value : Outline} {rest : List (Option String × Outline)}
    (read : form.ofFields before ((some key, value) :: rest) = .ok after) :
    ((∀ field ∈ form.fields, field.name ≠ key) ∧ form.ofFields before rest = .ok after) ∨
      ∃ field ∈ form.fields, field.name = key ∧ field.given before = false ∧
        ∃ next, field.read before value = .ok next ∧ form.ofFields next rest = .ok after := by
  rw [ofFields] at read
  cases known : form.fields.find? fun field => field.name = key with
  | none =>
      simp only [known] at read
      split_ifs at read
      refine .inl ⟨fun field member same => ?_, read⟩
      exact absurd (decide_eq_true same) (List.find?_eq_none.mp known field member)
  | some field =>
      simp only [known] at read
      split_ifs at read with given
      have named : field.name = key := by simpa using List.find?_some known
      cases stored : field.read before value with
      | error problem =>
          rw [stored] at read
          cases read
      | ok next =>
          rw [stored] at read
          exact .inr ⟨field, List.mem_of_find?_eq_some known, named,
            Bool.eq_false_iff.mpr given, next, stored, read⟩

theorem RecordForm.decode_object {Draft : Type} {form : RecordForm Draft} {before after : Draft}
    {fields : List (Option String × Outline)} {closed : Bool}
    (read : form.decode before (.object fields closed) = .ok after) :
    form.ofFields before fields = .ok after := by
  cases stored : form.ofFields before fields with
  | error problem =>
      rw [decode, stored] at read
      cases read
  | ok draft =>
      rw [decode, stored] at read
      simp only [bind, Except.bind] at read
      split_ifs at read
      exact read

theorem RetryPolicy.decode_toValue {policy : RetryPolicy}
    (small : ∀ limit ∈ policy.maxRetries?, limit < UInt32.size) :
    decode (Outline.ofValue policy.toValue) = .ok policy := by
  cases policy with
  | noRetry => exact Decoder.oneOf_plain rfl
  | indefinite => exact Decoder.oneOf_plain rfl
  | maxRetry limit =>
      have read : Decoder.unsigned32 (Outline.ofValue (.nat limit)) = .ok limit :=
        Decoder.unsigned_nat (small limit rfl) "u32"
      refine Decoder.oneOf_carrying rfl ?_
      rw [read]
      rfl

theorem ReconcileMode.decode_name (mode : ReconcileMode) :
    decode (Outline.ofValue (.string mode.name)) = .ok mode := by
  cases mode <;> exact Decoder.oneOf_plain rfl

theorem Severity.decode_name (severity : Severity) :
    decode (Outline.ofValue (.string severity.name)) = .ok severity := by
  cases severity <;> exact Decoder.oneOf_plain rfl

theorem SimulationConfig.decode_toValue {config : SimulationConfig}
    (small : ∀ runs ∈ config.maxBackgroundHookRuns, runs < UInt32.size) :
    decode (Outline.ofValue config.toValue) = .ok config := by
  have read : Decoder.orNull Decoder.unsigned32
      (Outline.ofValue (.ofOption .nat config.maxBackgroundHookRuns)) =
        .ok config.maxBackgroundHookRuns := by
    cases limit : config.maxBackgroundHookRuns with
    | none => rfl
    | some runs =>
        have number : Decoder.unsigned32 (Outline.ofValue (.nat runs)) = .ok runs :=
          Decoder.unsigned_nat (small runs limit) "u32"
        exact Decoder.orNull_nat number
  have written : Outline.ofValue config.toValue =
      .object [(some "max_background_hook_runs",
        Outline.ofValue (.ofOption .nat config.maxBackgroundHookRuns))] true := rfl
  rw [written]
  simp [decode, RecordForm.decode, RecordForm.ofFields, form, read, bind, Except.bind, pure,
    Except.pure]

namespace Config

/-- Every number of the settings fits its type. -/
structure Representable (config : Config) : Prop where
  workers : config.maxWorkers < UInt64.size
  retries : ∀ limit ∈ config.defaultRetryPolicy.maxRetries?, limit < UInt32.size
  hookRuns : ∀ runs ∈ config.simulation.maxBackgroundHookRuns, runs < UInt32.size

/-- The settings with their keys, in the order in which they are declared. -/
def members (config : Config) : List (String × Value) := [
  ("max_workers", .nat config.maxWorkers),
  ("default_retry_policy", config.defaultRetryPolicy.toValue),
  ("reconcile_mode", .string config.reconcileMode.name),
  ("log_level", .string config.logLevel.name),
  ("simulation", config.simulation.toValue)]

/-- The keys of the settings. -/
def keys : List String :=
  ["max_workers", "default_retry_policy", "reconcile_mode", "log_level", "simulation"]

/-- The settings with these keys, and the default for every other one. -/
def restrict (config : Config) (given : List String) : Config where
  maxWorkers := if "max_workers" ∈ given then config.maxWorkers else default.maxWorkers
  defaultRetryPolicy :=
    if "default_retry_policy" ∈ given then config.defaultRetryPolicy
    else default.defaultRetryPolicy
  reconcileMode :=
    if "reconcile_mode" ∈ given then config.reconcileMode else default.reconcileMode
  logLevel := if "log_level" ∈ given then config.logLevel else default.logLevel
  simulation := if "simulation" ∈ given then config.simulation else default.simulation

/-- A member of an object is a setting of this configuration, or has a key that is no setting
and a value that is well formed. -/
def Admits (config : Config) (key : String) (outline : Outline) : Prop :=
  (∃ value, (key, value) ∈ config.members ∧ outline = .ofValue value) ∨
    (key ∉ keys ∧ outline.wellFormed = true)

/-- The draft after the settings with these keys were read. -/
def draft (config : Config) (given : List String) : Draft where
  maxWorkers := if "max_workers" ∈ given then some config.maxWorkers else none
  defaultRetryPolicy :=
    if "default_retry_policy" ∈ given then some config.defaultRetryPolicy else none
  reconcileMode := if "reconcile_mode" ∈ given then some config.reconcileMode else none
  logLevel := if "log_level" ∈ given then some config.logLevel else none
  simulation := if "simulation" ∈ given then some config.simulation else none

variable {config : Config}

theorem mem_keys_of_member {key : String} {value : Value}
    (member : (key, value) ∈ config.members) : key ∈ keys := by
  have named : config.members.map (·.1) = keys := rfl
  exact named ▸ List.mem_map_of_mem member

theorem ofDraft_draft (config : Config) (given : List String) :
    ofDraft (config.draft given) = config.restrict given := by
  simp only [ofDraft, draft, restrict]
  congr 1 <;> split_ifs <;> rfl

theorem ofFields_setting (representable : config.Representable) {given : List String}
    {key : String} {value : Value} (setting : (key, value) ∈ config.members)
    (fresh : key ∉ given) (rest : List (Option String × Outline)) :
    form.ofFields (config.draft given) ((some key, .ofValue value) :: rest) =
      form.ofFields (config.draft (given ++ [key])) rest := by
  simp only [members, List.mem_cons, List.not_mem_nil, or_false, Prod.mk.injEq] at setting
  rcases setting with ⟨rfl, rfl⟩ | ⟨rfl, rfl⟩ | ⟨rfl, rfl⟩ | ⟨rfl, rfl⟩ | ⟨rfl, rfl⟩
  · have read : Decoder.count (.ofValue (.nat config.maxWorkers)) = .ok config.maxWorkers :=
      Decoder.unsigned_nat representable.workers "usize"
    rw [RecordForm.ofFields_known rfl (congrArg Option.isSome (if_neg fresh)) rfl read]
    simp [draft]
  · have read := RetryPolicy.decode_toValue representable.retries
    rw [RecordForm.ofFields_known rfl (congrArg Option.isSome (if_neg fresh)) rfl read]
    simp [draft]
  · have read := ReconcileMode.decode_name config.reconcileMode
    rw [RecordForm.ofFields_known rfl (congrArg Option.isSome (if_neg fresh)) rfl read]
    simp [draft]
  · have read := Severity.decode_name config.logLevel
    rw [RecordForm.ofFields_known rfl (congrArg Option.isSome (if_neg fresh)) rfl read]
    simp [draft]
  · have read := SimulationConfig.decode_toValue representable.hookRuns
    rw [RecordForm.ofFields_known rfl (congrArg Option.isSome (if_neg fresh)) rfl read]
    simp [draft]

theorem ofFields_other {key : String} {outline : Outline} (other : key ∉ keys)
    (wellFormed : outline.wellFormed = true) (draft : Draft)
    (rest : List (Option String × Outline)) :
    form.ofFields draft ((some key, outline) :: rest) = form.ofFields draft rest := by
  have unknown : (form.fields.find? fun field => field.name = key) = none := by
    rw [List.find?_eq_none]
    intro field member same
    have name : field.name ∈ keys := List.mem_map_of_mem member
    exact other (of_decide_eq_true same ▸ name)
  simp [RecordForm.ofFields, unknown, wellFormed]

/-- The keys of settings among the members of an object. -/
def settingKeys (fields : List (String × Outline)) : List String :=
  (fields.map (·.1)).filter fun key => key ∈ keys

theorem settingKeys_setting {key : String} (setting : key ∈ keys) (outline : Outline)
    (rest : List (String × Outline)) :
    settingKeys ((key, outline) :: rest) = key :: settingKeys rest :=
  List.filter_cons_of_pos (decide_eq_true setting)

theorem settingKeys_other {key : String} (other : key ∉ keys) (outline : Outline)
    (rest : List (String × Outline)) :
    settingKeys ((key, outline) :: rest) = settingKeys rest :=
  List.filter_cons_of_neg (by simpa using other)

/-- The members of an object, as an outline has them. -/
def outlined (fields : List (String × Outline)) : List (Option String × Outline) :=
  fields.map fun field => (some field.1, field.2)

/-- The draft after some members were read has the settings among them. -/
theorem ofFields_settings (representable : config.Representable)
    {fields : List (String × Outline)} :
    ∀ given : List String, (∀ field ∈ fields, config.Admits field.1 field.2) →
      (given ++ settingKeys fields).Nodup →
      form.ofFields (config.draft given) (outlined fields) =
        .ok (config.draft (given ++ settingKeys fields)) := by
  induction fields with
  | nil =>
      intro given _ _
      rw [settingKeys, List.map_nil, List.filter_nil, List.append_nil]
      rfl
  | cons field rest inductionHypothesis =>
      intro given admitted once
      obtain ⟨key, outline⟩ := field
      obtain ⟨admits, others⟩ := List.forall_mem_cons.mp admitted
      have split : outlined ((key, outline) :: rest) = (some key, outline) :: outlined rest := rfl
      rw [split]
      rcases admits with ⟨value, member, rfl⟩ | ⟨other, wellFormed⟩
      · have setting := mem_keys_of_member member
        rw [settingKeys_setting setting] at once ⊢
        have fresh : key ∉ given := fun held =>
          (List.nodup_append.mp once).2.2 key held key List.mem_cons_self rfl
        rw [List.append_cons given] at once
        rw [ofFields_setting representable member fresh,
          List.append_cons given _ (settingKeys rest)]
        exact inductionHypothesis _ others once
      · rw [settingKeys_other other] at once ⊢
        rw [ofFields_other other wellFormed]
        exact inductionHypothesis _ others once

theorem decode_settings (representable : config.Representable) {fields : List (String × Outline)}
    (admitted : ∀ field ∈ fields, config.Admits field.1 field.2)
    (once : (settingKeys fields).Nodup) :
    decode (.object (outlined fields) true) = .ok (config.restrict (settingKeys fields)) := by
  have read : form.ofFields ⟨none, none, none, none, none⟩ (outlined fields) =
      .ok (config.draft ([] ++ settingKeys fields)) :=
    ofFields_settings representable [] admitted once
  simp [decode, RecordForm.decode, read, bind, Except.bind, pure, Except.pure, ofDraft_draft]

theorem maxWorkers_restrict (config : Config) (given : List String) :
    (config.restrict given).maxWorkers = 0 ↔ "max_workers" ∈ given ∧ config.maxWorkers = 0 := by
  by_cases workers : "max_workers" ∈ given <;> simp [restrict, workers, default]

theorem ofText_settings (representable : config.Representable) {text : String}
    {fields : List (String × Outline)}
    (object : Outline.ofText text = (.object (outlined fields) true, true))
    (admitted : ∀ field ∈ fields, config.Admits field.1 field.2)
    (once : (settingKeys fields).Nodup) :
    Config.ofText text =
      if "max_workers" ∈ settingKeys fields ∧ config.maxWorkers = 0 then
        .error (.config "max_workers must be greater than 0")
      else .ok (config.restrict (settingKeys fields)) := by
  have decoded : Decoder.ofText decode text = .ok (config.restrict (settingKeys fields)) := by
    simp [Decoder.ofText, object, decode_settings representable admitted once]
  rw [Config.ofText, decoded]
  simp only [validate, maxWorkers_restrict]
  split_ifs <;> rfl

theorem floatFree_members (representable : config.Representable) :
    ∀ member ∈ config.members, member.2.FloatFree := by
  have natural : ∀ {number : Nat}, number < UInt64.size → (Value.nat number).FloatFree := by
    intro number small
    exact ⟨by omega, by omega⟩
  have within : UInt32.size ≤ UInt64.size := by decide
  intro member held
  simp only [members, List.mem_cons, List.not_mem_nil, or_false] at held
  rcases held with rfl | rfl | rfl | rfl | rfl
  · exact natural representable.workers
  · have retries := representable.retries
    cases policy : config.defaultRetryPolicy with
    | noRetry => exact trivial
    | indefinite => exact trivial
    | maxRetry limit =>
        rw [policy] at retries
        exact ⟨natural (Nat.lt_of_lt_of_le (retries limit rfl) within), trivial⟩
  · exact trivial
  · exact trivial
  · have hookRuns := representable.hookRuns
    refine ⟨?_, trivial⟩
    cases runs : config.simulation.maxBackgroundHookRuns with
    | none => exact trivial
    | some limit => exact natural (Nat.lt_of_lt_of_le (hookRuns limit runs) within)

theorem keys_nodup : keys.Nodup := by decide

theorem restrict_of_all {given : List String} (all : ∀ key ∈ keys, key ∈ given) :
    config.restrict given = config := by
  simp [keys] at all
  simp [restrict, all]

/-- What the members of an encoded object are read as. -/
def encoded (fields : List (String × Value)) : List (String × Outline) :=
  fields.map fun field => (field.1, .ofValue field.2)

theorem settingKeys_encoded {fields : List (String × Value)}
    (reordered : fields.Perm config.members) : (settingKeys (encoded fields)).Perm keys := by
  have named : (encoded fields).map (·.1) = fields.map (·.1) := by
    simp [encoded, Function.comp_def]
  have listed : (fields.map (·.1)).Perm keys := reordered.map (·.1)
  have whole : settingKeys (encoded fields) = fields.map (·.1) := by
    rw [settingKeys, named]
    exact List.filter_eq_self.mpr fun key held => decide_eq_true (listed.mem_iff.mp held)
  exact whole ▸ listed

/-- All settings in one object, in whatever order. -/
theorem ofText_members (representable : config.Representable) {fields : List (String × Value)}
    (reordered : fields.Perm config.members) (workers : 1 ≤ config.maxWorkers) :
    Config.ofText (Value.object fields).text = .ok config := by
  have free : (Value.object fields).FloatFree := Value.floatFree_object fun field held =>
    floatFree_members representable field (reordered.mem_iff.mp held)
  have object : Outline.ofText (Value.object fields).text =
      (.object (outlined (encoded fields)) true, true) := by
    rw [Value.ofText_text free, Outline.ofValue, Outline.ofFields_eq_map]
    simp [outlined, encoded]
  have admitted : ∀ field ∈ encoded fields, config.Admits field.1 field.2 := by
    intro field held
    obtain ⟨⟨key, value⟩, member, rfl⟩ := List.mem_map.mp held
    exact .inl ⟨value, reordered.mem_iff.mp member, rfl⟩
  have listed := settingKeys_encoded reordered
  rw [ofText_settings representable object admitted (listed.nodup_iff.mpr keys_nodup),
    restrict_of_all fun key held => listed.mem_iff.mpr held,
    if_neg fun none => Nat.ne_of_gt workers none.2]

/-- The number of workers is what the member of that name says, and no other member changes it. -/
theorem maxWorkers_read {field : DraftField Draft} (listed : field ∈ form.fields)
    {before next : Draft} {outline : Outline} (read : field.read before outline = .ok next) :
    if field.name = "max_workers" then
      field.given before = before.maxWorkers.isSome ∧
        ∃ workers, Decoder.count outline = .ok workers ∧ next.maxWorkers = some workers
    else next.maxWorkers = before.maxWorkers := by
  simp only [form, List.mem_cons, List.not_mem_nil, or_false] at listed
  rcases listed with rfl | rfl | rfl | rfl | rfl
  all_goals obtain ⟨item, decoded, rfl⟩ := Decoder.stored_of_ok read
  · exact ⟨rfl, item, decoded, rfl⟩
  all_goals rfl

/-- A draft keeps the number of workers it was given, and a text gives it but once. -/
theorem ofFields_no_workers {fields : List (Option String × Outline)} :
    ∀ {before after : Draft},
      (before.maxWorkers = some 0 ∨ (some "max_workers", Outline.ofValue (.nat 0)) ∈ fields) →
      form.ofFields before fields = .ok after → after.maxWorkers = some 0 := by
  induction fields with
  | nil =>
      intro before after given read
      obtain rfl : before = after := Except.ok.inj read
      exact given.resolve_right List.not_mem_nil
  | cons field rest inductionHypothesis =>
      intro before after given read
      obtain ⟨key, outline⟩ := field
      cases key with
      | none => cases read
      | some key =>
          rcases RecordForm.ofFields_ok read with
            ⟨other, later⟩ | ⟨known, listed, named, fresh, next, stored, later⟩
          · refine inductionHypothesis (given.imp_right fun member => ?_) later
            rcases List.mem_cons.mp member with here | member
            · cases here
              exact absurd rfl (other _ List.mem_cons_self)
            · exact member
          · have workers := maxWorkers_read listed stored
            refine inductionHypothesis ?_ later
            by_cases here : known.name = "max_workers"
            · rw [if_pos here] at workers
              obtain ⟨unset, number, counted, set⟩ := workers
              rcases given with zero | member
              · rw [fresh, zero] at unset
                cases unset
              · rcases List.mem_cons.mp member with same | member
                · cases same
                  have zero : Decoder.count (Outline.ofValue (.nat 0)) = .ok 0 := rfl
                  rw [zero] at counted
                  exact .inl (set.trans (congrArg some (Except.ok.inj counted).symm))
                · exact .inr member
            · rw [if_neg here] at workers
              rw [workers]
              refine given.imp_right fun member => ?_
              rcases List.mem_cons.mp member with same | member
              · cases same
                exact absurd named here
              · exact member

/-- A text is accepted if it is decoded to a configuration with a worker. -/
theorem ofText_eq_ok_iff {text : String} :
    Config.ofText text = .ok config ↔
      Decoder.ofText decode text = .ok config ∧ 0 < config.maxWorkers := by
  rw [Config.ofText]
  cases decoded : Decoder.ofText decode text with
  | error problem => simp
  | ok settings =>
      by_cases none : settings.maxWorkers = 0
      · have refused : settings.validate =
            .error (.config "max_workers must be greater than 0") := if_pos none
        simp only [refused]
        constructor
        · intro accepted
          cases accepted
        · rintro ⟨same, asked⟩
          obtain rfl := Except.ok.inj same
          omega
      · have valid : settings.validate = .ok () := if_neg none
        simp only [valid]
        constructor
        · intro accepted
          obtain rfl := Except.ok.inj accepted
          exact ⟨rfl, Nat.pos_of_ne_zero none⟩
        · rintro ⟨same, -⟩
          rw [Except.ok.inj same]

/-- No text that asks for no workers is a configuration. -/
theorem ofText_no_workers {text : String} {fields : List (Option String × Outline)}
    {closed complete : Bool} (object : Outline.ofText text = (.object fields closed, complete))
    (zero : (some "max_workers", Outline.ofValue (.nat 0)) ∈ fields) :
    ∃ message, Config.ofText text = .error (.config message) := by
  cases decoded : Decoder.ofText decode text with
  | error problem => exact ⟨_, by rw [Config.ofText, decoded]⟩
  | ok config =>
      have none : config.maxWorkers = 0 := by
        have read := Decoder.decoder_of_ofText decoded
        rw [object] at read
        obtain ⟨draft, filled, rfl⟩ := Decoder.stored_of_ok read
        have workers := ofFields_no_workers (.inr zero) (RecordForm.decode_object filled)
        rw [ofDraft, workers]
        rfl
      refine ⟨"max_workers must be greater than 0", ?_⟩
      rw [Config.ofText, decoded]
      simp [validate, none]

/-- Decoding inverts encoding, and settings are read in any order and among other members. -/
theorem ofText_encoding (representable : config.Representable) :
    (1 ≤ config.maxWorkers →
      Config.ofText config.toValue.text = .ok config ∧
        ∀ fields, fields.Perm config.members →
          Config.ofText (Value.object fields).text = .ok config) ∧
    (∀ text fields, Outline.ofText text = (.object (outlined fields) true, true) →
      (∀ field ∈ fields, config.Admits field.1 field.2) → (settingKeys fields).Nodup →
      Config.ofText text =
        if "max_workers" ∈ settingKeys fields ∧ config.maxWorkers = 0 then
          .error (.config "max_workers must be greater than 0")
        else .ok (config.restrict (settingKeys fields))) ∧
    ∀ text fields closed complete, Outline.ofText text = (.object fields closed, complete) →
      (some "max_workers", Outline.ofValue (.nat 0)) ∈ fields →
      ∃ message, Config.ofText text = .error (.config message) := by
  have sorted : (OrderedMap.ofList config.members).entries.Perm config.members :=
    OrderedMap.entries_ofList_perm keys_nodup
  refine ⟨fun workers => ⟨ofText_members representable sorted workers, ?_⟩, ?_, ?_⟩
  · intro fields reordered
    exact ofText_members representable reordered workers
  · intro text fields object admitted once
    exact ofText_settings representable object admitted once
  · intro text fields closed complete object zero
    exact ofText_no_workers object zero

/-- Two settings of five, with a member between them that is no setting. -/
theorem ofText_encoding_among_others :
    Config.ofText
        "\x7b\"log_level\":\"WARN\", \"notes\": [\x7b\"max_workers\":0\x7d],\"max_workers\":2\x7d" =
      .ok ⟨2, .indefinite, .strict, .warn, .unlimited⟩ := by
  have representable : Representable ⟨2, .noRetry, .rederive, .warn, ⟨some 5⟩⟩ := by
    constructor <;> decide
  have others := (ofText_encoding representable).2.1
  refine others _ [("log_level", .ofValue (.string "WARN")),
    ("notes", .array [.object [(some "max_workers", .ofValue (.nat 0))] true] true),
    ("max_workers", .ofValue (.nat 2))] ?_ ?_ (by decide)
  · simp only [Outline.ofText, String.reduceToList, List.length_cons, List.length_nil]
    rfl
  · intro field member
    simp only [List.mem_cons, List.not_mem_nil, or_false] at member
    rcases member with rfl | rfl | rfl
    · exact .inl ⟨_, by simp [members, Severity.name], rfl⟩
    · exact .inr ⟨by decide, rfl⟩
    · exact .inl ⟨_, by simp [members], rfl⟩

end Config

end SnapshotQuery
