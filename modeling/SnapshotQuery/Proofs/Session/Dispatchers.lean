import SnapshotQuery.Proofs.Query.Encoding
import SnapshotQuery.Session.Basic

/-!
# Dispatchers of accepted configurations

A text can ask for any number of workers from one up to what 64 bits hold, but a
pool of workers has a bound of its own that is lower.  Up to that bound an
accepted configuration yields a dispatcher with the workers it asks for, and
beyond it the attempt to set one up panics.
-/

namespace SnapshotQuery

namespace Decoder

theorem refuse_ne_ok {Item : Type} (expected : String) (outline : Outline) (item : Item) :
    refuse expected outline ≠ .ok item := by
  intro read
  unfold refuse at read
  split at read <;> cases read

theorem unsigned_lt {bound number : Nat} {name : String} {outline : Outline}
    (read : unsigned bound name outline = .ok number) : number < bound := by
  unfold unsigned at read
  split at read
  · split_ifs at read with range
    obtain rfl := Except.ok.inj read
    omega
  · exact absurd read (refuse_ne_ok _ _ _)

end Decoder

namespace RecordForm

variable {Draft : Type} {form : RecordForm Draft} {Kept : Draft → Prop}

theorem ofFields_keeps {fields : List (Option String × Outline)}
    (keeps : ∀ field ∈ form.fields, ∀ outline before after, Kept before →
      field.read before outline = .ok after → Kept after) :
    ∀ {before after : Draft}, Kept before → form.ofFields before fields = .ok after →
      Kept after := by
  induction fields with
  | nil =>
      intro before after kept read
      exact Except.ok.inj read ▸ kept
  | cons field rest inductionHypothesis =>
      intro before after kept read
      obtain ⟨key, outline⟩ := field
      cases key with
      | none => cases read
      | some key =>
          rcases ofFields_ok read with ⟨-, later⟩ | ⟨known, listed, -, -, next, stored, later⟩
          · exact inductionHypothesis kept later
          · exact inductionHypothesis (keeps known listed outline before next kept stored) later

theorem ofItems_keeps {closed : Bool} {fields : List (DraftField Draft)}
    (keeps : ∀ field ∈ fields, ∀ outline before after, Kept before →
      field.read before outline = .ok after → Kept after) :
    ∀ {before after : Draft} {items : List Outline}, Kept before →
      form.ofItems closed fields before items = .ok after → Kept after := by
  induction fields with
  | nil =>
      intro before after items kept read
      cases items with
      | nil =>
          rw [ofItems] at read
          split_ifs at read
          exact Except.ok.inj read ▸ kept
      | cons item items => cases read
  | cons field rest inductionHypothesis =>
      intro before after items kept read
      obtain ⟨first, others⟩ := List.forall_mem_cons.mp keeps
      cases items with
      | nil =>
          rw [ofItems] at read
          split_ifs at read
          exact Except.ok.inj read ▸ kept
      | cons item items =>
          rw [ofItems] at read
          cases stored : field.read before item with
          | error problem =>
              rw [stored] at read
              cases read
          | ok next =>
              rw [stored] at read
              exact inductionHypothesis others (first item before next kept stored) read

/-- What no field gives up is true of every record that is read. -/
theorem decode_keeps {outline : Outline} {before after : Draft}
    (keeps : ∀ field ∈ form.fields, ∀ outline before after, Kept before →
      field.read before outline = .ok after → Kept after)
    (kept : Kept before) (read : form.decode before outline = .ok after) : Kept after := by
  cases outline with
  | object fields closed => exact ofFields_keeps keeps kept (decode_object read)
  | array items closed => exact ofItems_keeps keeps kept read
  | _ =>
      unfold decode at read
      exact absurd read (Decoder.refuse_ne_ok _ _ _)

end RecordForm

namespace Config

variable {config : Config}

/-- The number of workers of a draft, if it is given, is one of 64 bits. -/
def Draft.Fits (draft : Draft) : Prop :=
  ∀ workers ∈ draft.maxWorkers, workers < UInt64.size

theorem Draft.Fits.read {field : DraftField Draft} (listed : field ∈ form.fields)
    (outline : Outline) {before after : Draft} (fits : before.Fits)
    (stored : field.read before outline = .ok after) : after.Fits := by
  have workers := maxWorkers_read listed stored
  split_ifs at workers
  · obtain ⟨-, number, counted, given⟩ := workers
    intro workers member
    obtain rfl : number = workers := Option.some.inj (given.symm.trans member)
    exact Decoder.unsigned_lt counted
  · rw [Draft.Fits, workers]
    exact fits

theorem maxWorkers_lt_of_decode {outline : Outline} (read : decode outline = .ok config) :
    config.maxWorkers < UInt64.size := by
  obtain ⟨draft, filled, rfl⟩ := Decoder.stored_of_ok read
  have fits : draft.Fits := by
    refine RecordForm.decode_keeps (fun field listed outline before after fits stored => ?_) ?_
      filled
    · exact fits.read listed outline stored
    · intro workers none
      cases none
  cases given : draft.maxWorkers with
  | none => simp [ofDraft, given, default, UInt64.size]
  | some workers => simpa [ofDraft, given] using fits workers given

theorem bounds_of_ofText {text : String} (accepted : ofText text = .ok config) :
    0 < config.maxWorkers ∧ config.maxWorkers < UInt64.size := by
  obtain ⟨decoded, asked⟩ := ofText_eq_ok_iff.mp accepted
  exact ⟨asked, maxWorkers_lt_of_decode (Decoder.decoder_of_ofText decoded)⟩

theorem representable_default {workers : Nat} (small : workers < UInt64.size) :
    Representable { default with maxWorkers := workers } where
  workers := small
  retries _ unlimited := nomatch unlimited
  hookRuns _ unlimited := nomatch unlimited

/-- A text asks for any number of workers from one up to what 64 bits hold. -/
theorem exists_ofText_iff (workers : Nat) :
    (∃ text config, ofText text = .ok config ∧ config.maxWorkers = workers) ↔
      0 < workers ∧ workers < UInt64.size := by
  constructor
  · rintro ⟨text, config, accepted, rfl⟩
    exact bounds_of_ofText accepted
  · rintro ⟨asked, small⟩
    exact ⟨_, _, ofText_members (representable_default small) (.refl _) asked, rfl⟩

/-- An object that asks for workers only. -/
theorem ofText_only_workers {text : String} {workers : Nat} (asked : 0 < workers)
    (small : workers < UInt64.size)
    (object : Outline.ofText text =
      (.object [(some "max_workers", .ofValue (.nat workers))] true, true)) :
    ofText text = .ok { default with maxWorkers := workers } := by
  have admitted : ∀ field ∈ [("max_workers", Outline.ofValue (.nat workers))],
      Admits { default with maxWorkers := workers } field.1 field.2 := by
    intro field member
    obtain rfl := List.mem_singleton.mp member
    exact .inl ⟨_, List.mem_cons_self, rfl⟩
  have settings : settingKeys [("max_workers", Outline.ofValue (.nat workers))] =
      ["max_workers"] := rfl
  rw [ofText_settings (representable_default small) object admitted
    (settings ▸ List.nodup_singleton _), settings, if_neg fun none => Nat.ne_of_gt asked none.2]
  rfl

end Config

namespace Session

variable {config : Config}

theorem addDispatcher_of_le (workers : 0 < config.maxWorkers)
    (within : config.maxWorkers ≤ Dispatcher.mostWorkers) (service : Service) (name : String)
    (shared : Option String) :
    ∃ started dispatcher,
      addDispatcher service name config shared = (started, .dispatcher dispatcher) ∧
        dispatcher.maxWorkers = config.maxWorkers := by
  have asked : max 1 config.maxWorkers = config.maxWorkers := Nat.max_eq_right workers
  have built : Dispatcher.workersFor config = .ok config.maxWorkers := by
    simp only [Dispatcher.workersFor, asked, if_pos within]
  rw [addDispatcher, built]
  exact ⟨_, _, rfl, rfl⟩

theorem addDispatcher_of_lt (beyond : Dispatcher.mostWorkers < config.maxWorkers)
    (service : Service) (name : String) (shared : Option String) :
    addDispatcher service name config shared =
      (service,
        .panicked
          "a semaphore may not have more than MAX_PERMITS permits (2305843009213693951)") := by
  have asked : Dispatcher.mostWorkers < max 1 config.maxWorkers :=
    Nat.lt_of_lt_of_le beyond (Nat.le_max_right _ _)
  have refused : Dispatcher.workersFor config = .error
      "a semaphore may not have more than MAX_PERMITS permits (2305843009213693951)" := by
    simp only [Dispatcher.workersFor, if_neg (Nat.not_le.mpr asked)]
    rfl
  rw [addDispatcher, refused]

/-- Texts are accepted that ask for any number of workers of 64 bits but none.  With this number
of workers a dispatcher can be set up exactly if a pool can have as many; else the attempt panics
and leaves everything as it was. -/
theorem accepted_dispatchers (workers : Nat) (service : Service) (name : String)
    (shared : Option String) :
    ((∃ text config, Config.ofText text = .ok config ∧ config.maxWorkers = workers) ↔
      0 < workers ∧ workers < UInt64.size) ∧
    ∀ text config, Config.ofText text = .ok config → config.maxWorkers = workers →
      ((∃ started dispatcher,
        addDispatcher service name config shared = (started, .dispatcher dispatcher) ∧
          dispatcher.maxWorkers = workers) ↔ workers ≤ Dispatcher.mostWorkers) ∧
      (Dispatcher.mostWorkers < workers →
        addDispatcher service name config shared = (service, .panicked
          "a semaphore may not have more than MAX_PERMITS permits (2305843009213693951)")) := by
  refine ⟨Config.exists_ofText_iff workers, ?_⟩
  rintro text config accepted rfl
  obtain ⟨asked, -⟩ := Config.bounds_of_ofText accepted
  refine ⟨⟨?_, fun within => addDispatcher_of_le asked within service name shared⟩,
    fun beyond => addDispatcher_of_lt beyond service name shared⟩
  rintro ⟨started, dispatcher, added, -⟩
  by_contra beyond
  rw [addDispatcher_of_lt (Nat.lt_of_not_le beyond)] at added
  cases added

/-- The greatest pool there can be. -/
theorem accepted_dispatchers_of_greatest :
    ∃ config,
      Config.ofText "\x7b\"max_workers\":2305843009213693951\x7d" = .ok config ∧
        ∃ started dispatcher,
          addDispatcher (.new (TableSchema.new "t")) "d" config none =
            (started, .dispatcher dispatcher) ∧
            dispatcher.maxWorkers = 2305843009213693951 := by
  have accepted : Config.ofText "\x7b\"max_workers\":2305843009213693951\x7d" =
      .ok { Config.default with maxWorkers := 2305843009213693951 } := by
    refine Config.ofText_only_workers (by decide) (by decide) ?_
    simp only [Outline.ofText, String.reduceToList, List.length_cons, List.length_nil]
    rfl
  have settled := accepted_dispatchers 2305843009213693951 (.new (TableSchema.new "t")) "d" none
  exact ⟨_, accepted, (settled.2 _ _ accepted rfl).1.mpr (by decide)⟩

/-- A text that asks for one worker more than a pool can have is accepted all the same. -/
theorem no_dispatcher_of_accepted :
    ∃ config,
      Config.ofText "\x7b\"max_workers\":2305843009213693952\x7d" = .ok config ∧
        ∀ service name shared, ∃ message,
          addDispatcher service name config shared = (service, .panicked message) := by
  have accepted : Config.ofText "\x7b\"max_workers\":2305843009213693952\x7d" =
      .ok { Config.default with maxWorkers := 2305843009213693952 } := by
    refine Config.ofText_only_workers (by decide) (by decide) ?_
    simp only [Outline.ofText, String.reduceToList, List.length_cons, List.length_nil]
    rfl
  exact ⟨_, accepted, fun service name shared =>
    ⟨_, addDispatcher_of_lt (by decide) service name shared⟩⟩

end Session

end SnapshotQuery
