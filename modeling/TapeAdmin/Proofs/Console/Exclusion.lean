import Mathlib.Tactic.ByContra
import TapeAdmin.Proofs.Console.Reporting
import TapeAdmin.Proofs.Console.State

/-!
# Arguments that exclude each other

A device that is given by its path leaves nothing to choose. A command line that names a device and
also says how to choose one is refused as such, in whatever order and by whichever names it says so,
provided that nothing else is wrong with it. What is accepted never names a device and a choice.
-/

namespace TapeAdmin

/-- A target that is a device given by its path leaves nothing to choose. -/
def Target.Exclusive (target : Target) : Prop :=
  target.device ≠ none →
    target.drive = none ∧ target.nonRewinding = false ∧ target.mode = none

/-- A request of which the target, if it has one, leaves nothing to choose beside a device. -/
def Request.Exclusive (request : Request) : Prop :=
  ∀ target, request.target? = some target → target.Exclusive

/-- The target of what a verb means is that of the request, if it means one. -/
def Meaning.Exclusive : Meaning → Prop
  | .request asked => asked.Exclusive
  | .operation _ | .action _ => True

/-! ### Reading without a ban -/

/-- Ends the arguments of a verb, whether or not they exclude each other. -/
def ArgumentState.finishFreely (state : ArgumentState) (inner : Option Meaning) :
    Except UsageFault (Meaning × ArgumentValues) := do
  let state ← state.settle
  if state.verb.isIncomplete && inner.isNone then
    if state.given.isEmpty then throw .nothingAsked else throw .missingVerb
  let meaning ← state.verb.meaning state.values inner
  pure (meaning, state.values)

/-- Reads the words after a verb, whether or not the arguments of a verb exclude each other. -/
def readArgumentsFreely (state : ArgumentState) :
    List String → Except UsageFault (Meaning × ArgumentValues)
  | [] => state.finishFreely none
  | word :: words =>
    match state.readVerb word with
    | .verb verb => do
      let (inner, later) ← readArgumentsFreely (.after verb) words
      let (meaning, values) ← state.finishFreely (some inner)
      pure (meaning, values.general later)
    | .help => .error (helpFault state.verb words)
    | .other => do readArgumentsFreely (← state.readWord word) words

/-- Reads a command line, whether or not its arguments exclude each other. -/
def Invocation.readFreely (commandLine : List String) : Except UsageFault Invocation := do
  let (meaning, values) ← readArgumentsFreely (.after .program) (commandLine.drop 1)
  match meaning with
  | .request request =>
    pure {
      request := request
      verbose := values.verbose
      logJson := values.logJson
      configuration := values.configuration }
  | _ => throw .missingVerb

/-! ### What a target is made of -/

/-- The parts of a target are there exactly if their arguments were given. -/
structure Target.GivenBy (target : Target) (given : List Argument) : Prop where
  device : .device ∈ given ↔ target.device ≠ none
  drive : .drive ∈ given ↔ target.drive ≠ none
  nonRewinding : .nonRewinding ∈ given ↔ target.nonRewinding = true
  mode : .mode ∈ given ↔ target.mode ≠ none

theorem Target.givenBy_nil : ({} : Target).GivenBy [] := by
  constructor <;> simp

/-- The check that is made of the arguments of a verb is one of the target. -/
theorem Target.GivenBy.exclusive_iff {target : Target} {given : List Argument}
    (given_by : target.GivenBy given) :
    (given.contains .device && Argument.ofChoice.any given.contains) = false ↔
      target.Exclusive := by
  simp only [Argument.ofChoice, List.any_cons, List.any_nil, Bool.or_false, Bool.and_eq_false_imp,
    Bool.or_eq_false_iff, List.contains_eq_mem, decide_eq_true_eq, decide_eq_false_iff_not,
    given_by.device, given_by.drive, given_by.nonRewinding, given_by.mode, Target.Exclusive,
    Decidable.not_not, Bool.not_eq_true]

/-- An argument that is not among those of a target leaves it as it was. -/
theorem Target.GivenBy.append_other {target : Target} {given : List Argument}
    {argument : Argument} (given_by : target.GivenBy given) (other : argument ∉ Argument.ofTarget) :
    target.GivenBy (given ++ [argument]) := by
  have mem_iff {own : Argument} (own_mem : own ∈ Argument.ofTarget) :
      own ∈ given ++ [argument] ↔ own ∈ given := by
    have differs : own ≠ argument := fun same => other (same ▸ own_mem)
    simp [differs]
  constructor
  · rw [mem_iff (by decide), given_by.device]
  · rw [mem_iff (by decide), given_by.drive]
  · rw [mem_iff (by decide), given_by.nonRewinding]
  · rw [mem_iff (by decide), given_by.mode]

namespace ArgumentValues

variable {values next : ArgumentValues} {given : List Argument} {argument : Argument}
  {text : String}

theorem target_store_of_other (other : argument ∉ Argument.ofTarget)
    (stored : values.store text argument = .ok next) : next.target = values.target := by
  cases argument with
  | help | version => cases stored
  | verbose | logJson | detailed | json | mountOption | label | force | assumeYes | allowWrite
  | attributeValue =>
      cases stored
      rfl
  | device | drive | nonRewinding | mode => exact absurd (by decide) other
  | _ =>
      rcases exists_of_bind_ok stored with ⟨value, _, rest⟩
      cases rest
      rfl

/-- A stored value becomes a part of the target if its argument is one of the target. -/
theorem givenBy_store (given_by : values.target.GivenBy given)
    (stored : values.store text argument = .ok next) :
    next.target.GivenBy (given ++ [argument]) := by
  by_cases own : argument ∈ Argument.ofTarget
  · rcases given_by with ⟨device, drive, nonRewinding, mode⟩
    simp only [Argument.ofTarget, List.mem_cons, List.not_mem_nil, or_false] at own
    rcases own with rfl | rfl | rfl | rfl
    · rcases exists_of_bind_ok stored with ⟨path, _, rest⟩
      cases rest
      constructor <;> simp [*]
    · rcases exists_of_bind_ok stored with ⟨number, _, rest⟩
      cases rest
      constructor <;> simp [*]
    · cases stored
      constructor <;> simp [*]
    · rcases exists_of_bind_ok stored with ⟨word, _, rest⟩
      cases rest
      constructor <;> simp [*]
  · rw [target_store_of_other own stored]
    exact given_by.append_other own

end ArgumentValues

/-! ### What is given to a verb -/

namespace Verb

variable {verb : Verb}

/-- The arguments of a verb, flags, options and positional values. -/
def arguments (verb : Verb) : List Argument :=
  verb.options ++ verb.positions

theorem mem_arguments_of_long? {name : String} {argument : Argument}
    (found : verb.long? name = some argument) : argument ∈ verb.arguments :=
  List.mem_append_left _ (List.mem_of_find?_eq_some found)

theorem mem_arguments_of_short? {letter : Char} {argument : Argument}
    (found : verb.short? letter = some argument) : argument ∈ verb.arguments :=
  List.mem_append_left _ (List.mem_of_find?_eq_some found)

end Verb

namespace ArgumentState

/-- A state in which the verb has got none but its own arguments, and its target is made of those.
-/
structure Tracks (state : ArgumentState) : Prop where
  given : ∀ argument ∈ state.given, argument ∈ state.verb.arguments
  pending : ∀ argument text, state.pending = some (argument, text) →
    argument ∈ state.verb.arguments
  free : ∀ argument ∈ state.free, argument ∈ state.verb.arguments
  target : state.values.target.GivenBy state.given

variable {state next : ArgumentState} {argument : Argument} {text word : String}

theorem tracks_after (verb : Verb) : (ArgumentState.after verb).Tracks where
  given := by simp [after]
  pending := by simp [after]
  free _ := List.mem_append_right _
  target := Target.givenBy_nil

namespace Tracks

theorem accept (tracks : state.Tracks) (own : argument ∈ state.verb.arguments)
    (accepted : state.accept argument text = .ok next) : next.Tracks := by
  rcases accept_eq_ok_iff.mp accepted with ⟨_, values, stored, rfl⟩
  refine ⟨?_, tracks.pending, tracks.free, ArgumentValues.givenBy_store tracks.target stored⟩
  intro other other_mem
  rcases List.mem_append.mp other_mem with earlier | here
  · exact tracks.given other earlier
  · rw [List.mem_singleton.mp here]
    exact own

theorem settle (tracks : state.Tracks) (settles : state.settle = .ok next) : next.Tracks := by
  rw [ArgumentState.settle] at settles
  split at settles
  · cases settles
    exact tracks
  · cases settles
  · next held =>
      have cleared : { state with pending := none }.Tracks :=
        ⟨tracks.given, by simp, tracks.free, tracks.target⟩
      exact cleared.accept (tracks.pending _ _ held) settles

theorem acceptNow (tracks : state.Tracks) (own : argument ∈ state.verb.arguments)
    (accepted : state.acceptNow argument text = .ok next) : next.Tracks := by
  rcases exists_of_bind_ok accepted with ⟨settled, settles, accepted⟩
  refine (tracks.settle settles).accept ?_ accepted
  rwa [(settles_of_settle settles).verb]

theorem await {value : Option String} (tracks : state.Tracks)
    (own : argument ∈ state.verb.arguments)
    (awaited : state.await argument value = .ok next) : next.Tracks := by
  rcases exists_of_bind_ok awaited with ⟨settled, settles, rest⟩
  have settled_tracks := tracks.settle settles
  cases rest
  refine ⟨settled_tracks.given, ?_, settled_tracks.free, settled_tracks.target⟩
  intro other text held
  cases held
  rwa [(settles_of_settle settles).verb]

theorem readLong {name : String} {value : Option String} (tracks : state.Tracks)
    (read : state.readLong name value = .ok next) : next.Tracks := by
  rw [ArgumentState.readLong] at read
  split at read
  · cases read
  · next argument found =>
      have own := Verb.mem_arguments_of_long? found
      split at read
      · exact tracks.acceptNow own read
      · cases read
      · exact tracks.acceptNow own read
      · exact tracks.await own read

theorem readShort {letters : List Char} (tracks : state.Tracks)
    (read : state.readShort letters = .ok next) : next.Tracks := by
  induction letters generalizing state with
  | nil =>
      cases read
      exact tracks
  | cons letter letters ih =>
      rw [ArgumentState.readShort] at read
      split at read
      · cases read
      · next argument found =>
          have own := Verb.mem_arguments_of_short? found
          split at read
          · rcases exists_of_bind_ok read with ⟨between, accepted, rest⟩
            exact ih (tracks.acceptNow own accepted) rest
          · split at read
            · exact tracks.await own read
            · exact tracks.acceptNow own read
            · exact tracks.acceptNow own read

theorem readPositional (tracks : state.Tracks) (read : state.readPositional word = .ok next) :
    next.Tracks := by
  rw [ArgumentState.readPositional] at read
  split at read
  · cases read
  · next argument free free_eq =>
      have argument_mem : argument ∈ state.verb.arguments :=
        tracks.free argument (by simp [free_eq])
      have fewer : { state with free := free }.Tracks := by
        refine ⟨tracks.given, tracks.pending, ?_, tracks.target⟩
        intro other other_mem
        exact tracks.free other (by simp [free_eq, other_mem])
      exact fewer.await argument_mem read

/-- Whatever word is read, a verb gets none but its own arguments. -/
theorem readWord (tracks : state.Tracks) (read : state.readWord word = .ok next) :
    next.Tracks := by
  rw [ArgumentState.readWord] at read
  split at read
  · exact tracks.readPositional read
  · split at read
    · cases read
      exact ⟨tracks.given, tracks.pending, tracks.free, tracks.target⟩
    · exact tracks.readLong read
    · exact tracks.readShort read
    · split at read
      · next held =>
          cases read
          refine ⟨tracks.given, ?_, tracks.free, tracks.target⟩
          intro other text same
          cases same
          exact tracks.pending _ _ held
      · exact tracks.readPositional read

/-- A verb that takes no device has none in its target. -/
theorem device_eq_none (tracks : state.Tracks) (takes_none : .device ∉ state.verb.arguments) :
    state.values.target.device = none := by
  by_contra some_device
  exact takes_none (tracks.given _ (tracks.target.device.mpr some_device))

end Tracks

end ArgumentState

/-! ### Ending a verb -/

theorem Target.exclusive_of_device {target : Target} (no_device : target.device = none) :
    target.Exclusive :=
  fun some_device => absurd no_device some_device

/-- What a verb means leaves nothing to choose beside a device exactly if its own target does, and
what follows the verb does. -/
theorem Verb.exclusive_meaning_iff {verb : Verb} {values : ArgumentValues} {inner : Option Meaning}
    {meaning : Meaning} (means : verb.meaning values inner = .ok meaning)
    (targeted : .device ∈ verb.arguments ∨ values.target.device = none)
    (complete : verb.isIncomplete = false → inner = none) :
    meaning.Exclusive ↔
      values.target.Exclusive ∧ ∀ later, inner = some later → later.Exclusive := by
  have exclusive_of_untargeted (untargeted : .device ∉ verb.arguments) : values.target.Exclusive :=
    Target.exclusive_of_device (targeted.resolve_left untargeted)
  cases verb with
  | program =>
      have own := exclusive_of_untargeted (by decide)
      dsimp only [Verb.meaning] at means
      split at means
      · cases means
        simp [own]
      · cases means
  | tape =>
      dsimp only [Verb.meaning] at means
      split at means
      · cases means
        simp [Meaning.Exclusive, Request.Exclusive, Request.target?]
      · cases means
  | attributes =>
      dsimp only [Verb.meaning] at means
      split at means
      · cases means
        simp [Meaning.Exclusive, Request.Exclusive, Request.target?]
      · cases means
  | select | info | eject | mount | format =>
      cases complete rfl
      cases means
      simp [Meaning.Exclusive, Request.Exclusive, Request.target?]
  | diagnose =>
      cases complete rfl
      rcases exists_of_bind_ok means with ⟨suite, _, rest⟩
      cases rest
      simp [Meaning.Exclusive, Request.Exclusive, Request.target?]
  | unmount | tapeForward | tapeBackward =>
      cases complete rfl
      have own := exclusive_of_untargeted (by decide)
      rcases exists_of_bind_ok means with ⟨held, _, rest⟩
      cases rest
      simp [Meaning.Exclusive, Request.Exclusive, Request.target?, own]
  | attributesWrite =>
      cases complete rfl
      have own := exclusive_of_untargeted (by decide)
      rcases exists_of_bind_ok means with ⟨id, _, rest⟩
      rcases exists_of_bind_ok rest with ⟨value, _, rest⟩
      cases rest
      simp [Meaning.Exclusive, own]
  | _ =>
      cases complete rfl
      have own := exclusive_of_untargeted (by decide)
      cases means
      simp [Meaning.Exclusive, Request.Exclusive, Request.target?, own]

namespace ArgumentState

variable {state settled : ArgumentState} {inner : Option Meaning} {meaning : Meaning}
  {values : ArgumentValues}

/-- What becomes of a verb that has another one behind it or needs none: its arguments are checked,
and then it has its meaning. -/
theorem finish_run (settles : state.settle = .ok settled)
    (complete : (settled.verb.isIncomplete && inner.isNone) = false) :
    state.finish inner =
      if settled.given.contains .device && Argument.ofChoice.any settled.given.contains then
        .error .conflict
      else (settled.verb.meaning settled.values inner).map (·, settled.values) := by
  rw [finish, settles]
  dsimp only [bind, Except.bind]
  rw [complete, if_neg Bool.false_ne_true]
  dsimp only [pure, Except.pure]
  split <;> rfl

theorem finishFreely_run (settles : state.settle = .ok settled)
    (complete : (settled.verb.isIncomplete && inner.isNone) = false) :
    state.finishFreely inner =
      (settled.verb.meaning settled.values inner).map (·, settled.values) := by
  rw [finishFreely, settles]
  dsimp only [bind, Except.bind]
  rw [complete, if_neg Bool.false_ne_true]
  rfl

/-- Without another verb behind it, a verb that needs one does not end well. -/
theorem complete_of_finishFreely (settles : state.settle = .ok settled)
    (finished : state.finishFreely inner = .ok (meaning, values)) :
    (settled.verb.isIncomplete && inner.isNone) = false := by
  rw [finishFreely, settles] at finished
  dsimp only [bind, Except.bind] at finished
  by_contra incomplete
  rw [Bool.not_eq_false] at incomplete
  rw [incomplete, if_pos rfl] at finished
  split at finished <;> cases finished

/-- A verb ends well without the ban if its arguments are given and it means something. -/
theorem exists_settled_of_finishFreely
    (finished : state.finishFreely inner = .ok (meaning, values)) :
    ∃ settled, state.settle = .ok settled ∧
      (settled.verb.isIncomplete && inner.isNone) = false ∧
      settled.verb.meaning settled.values inner = .ok meaning ∧
      settled.values = values := by
  rcases exists_of_bind_ok finished with ⟨settled, settles, _⟩
  have complete := complete_of_finishFreely settles finished
  rw [finishFreely_run settles complete] at finished
  rcases map_eq_ok_iff.mp finished with ⟨_, means, pair⟩
  cases pair
  exact ⟨settled, settles, complete, means, rfl⟩

theorem finishFreely_of_finish (finished : state.finish inner = .ok (meaning, values)) :
    state.finishFreely inner = .ok (meaning, values) := by
  rcases exists_of_bind_ok finished with ⟨settled, settles, _⟩
  cases complete : settled.verb.isIncomplete && inner.isNone with
  | true =>
      rw [finish, settles] at finished
      dsimp only [bind, Except.bind] at finished
      rw [complete, if_pos rfl] at finished
      split at finished <;> cases finished
  | false =>
      rw [finish_run settles complete] at finished
      rw [finishFreely_run settles complete]
      split at finished
      · cases finished
      · exact finished

/-- A verb that ends well without the ban ends as well with it, unless its target is banned. -/
theorem finish_of_finishFreely (tracks : state.Tracks)
    (finished : state.finishFreely inner = .ok (meaning, values)) :
    (values.target.Exclusive → state.finish inner = .ok (meaning, values)) ∧
      (¬values.target.Exclusive → state.finish inner = .error .conflict) := by
  rcases exists_settled_of_finishFreely finished with ⟨settled, settles, complete, means, rfl⟩
  have exclusive_iff := (tracks.settle settles).target.exclusive_iff
  rw [finish_run settles complete]
  constructor
  · intro exclusive
    rw [exclusive_iff.mpr exclusive, means]
    rfl
  · intro banned
    rw [if_pos (by rwa [← exclusive_iff, Bool.not_eq_false] at banned)]

/-- What ends well is the meaning of the verb. -/
theorem exclusive_of_finishFreely (tracks : state.Tracks)
    (finished : state.finishFreely inner = .ok (meaning, values))
    (bare : state.verb.isIncomplete = false → inner = none) :
    meaning.Exclusive ↔
      values.target.Exclusive ∧ ∀ later, inner = some later → later.Exclusive := by
  rcases exists_settled_of_finishFreely finished with ⟨settled, settles, _, means, rfl⟩
  have settled_tracks := tracks.settle settles
  rw [← (settles_of_settle settles).verb] at bare
  refine Verb.exclusive_meaning_iff means ?_ bare
  by_cases takes_one : .device ∈ settled.verb.arguments
  · exact .inl takes_one
  · exact .inr (settled_tracks.device_eq_none takes_one)

end ArgumentState

/-! ### Reading a command line -/

namespace ArgumentState

variable {state : ArgumentState} {words : List String} {meaning : Meaning}
  {values : ArgumentValues}

theorem isIncomplete_of_readVerb {verb : Verb} {word : String}
    (read : state.readVerb word = .verb verb) : state.verb.isIncomplete = true := by
  rw [readVerb] at read
  split at read
  · cases read
  · split at read
    · next found =>
        have successor_mem := List.mem_of_find?_eq_some found
        simp [Verb.isIncomplete, List.ne_nil_of_mem successor_mem]
    · split at read <;> cases read

/-- What is accepted is accepted without the ban, too. -/
theorem readFreely_of_read (read : readArguments state words = .ok (meaning, values)) :
    readArgumentsFreely state words = .ok (meaning, values) := by
  induction words generalizing state meaning values with
  | nil => exact finishFreely_of_finish read
  | cons word words ih =>
      rw [readArguments] at read
      rw [readArgumentsFreely]
      cases reading : state.readVerb word with
      | verb verb =>
          simp only [reading] at read ⊢
          rcases exists_of_bind_ok read with ⟨⟨inner, later⟩, inner_read, rest⟩
          rcases exists_of_bind_ok rest with ⟨⟨meaning, own⟩, finished, same⟩
          rw [ih inner_read]
          dsimp only [bind, Except.bind]
          rw [finishFreely_of_finish finished]
          exact same
      | help =>
          simp only [reading] at read
          cases read
      | other =>
          simp only [reading] at read ⊢
          rcases exists_of_bind_ok read with ⟨next, word_read, rest⟩
          rw [word_read]
          exact ih rest

/-- A command line that is accepted without the ban is accepted with it, unless its target is
banned. -/
theorem read_of_readFreely (tracks : state.Tracks)
    (read : readArgumentsFreely state words = .ok (meaning, values)) :
    (meaning.Exclusive → readArguments state words = .ok (meaning, values)) ∧
      (¬meaning.Exclusive → readArguments state words = .error .conflict) := by
  induction words generalizing state meaning values with
  | nil =>
      have exclusive_iff := exclusive_of_finishFreely tracks read fun _ => rfl
      rcases finish_of_finishFreely tracks read with ⟨accepted, refused⟩
      simp only [reduceCtorEq, false_implies, implies_true, and_true] at exclusive_iff
      rw [exclusive_iff]
      exact ⟨accepted, refused⟩
  | cons word words ih =>
      rw [readArgumentsFreely] at read
      rw [readArguments]
      cases reading : state.readVerb word with
      | verb verb =>
          simp only [reading] at read ⊢
          rcases exists_of_bind_ok read with ⟨⟨inner, later⟩, inner_read, rest⟩
          rcases exists_of_bind_ok rest with ⟨⟨outer, own⟩, finished, same⟩
          cases same
          have exclusive_iff := exclusive_of_finishFreely tracks finished
            fun bare => absurd bare (by simp [isIncomplete_of_readVerb reading])
          simp only [Option.some.injEq, forall_eq'] at exclusive_iff
          rw [exclusive_iff]
          rcases ih (tracks_after verb) inner_read with ⟨inner_accepted, inner_refused⟩
          by_cases inner_exclusive : inner.Exclusive
          · rcases finish_of_finishFreely tracks finished with ⟨accepted, refused⟩
            rw [inner_accepted inner_exclusive]
            dsimp only [bind, Except.bind]
            constructor
            · rintro ⟨own_exclusive, _⟩
              rw [accepted own_exclusive]
              rfl
            · intro banned
              rw [refused fun own_exclusive => banned ⟨own_exclusive, inner_exclusive⟩]
          · rw [inner_refused inner_exclusive]
            exact ⟨fun both => absurd both.2 inner_exclusive, fun _ => rfl⟩
      | help =>
          simp only [reading] at read
          cases read
      | other =>
          simp only [reading] at read ⊢
          rcases exists_of_bind_ok read with ⟨next, word_read, rest⟩
          rw [word_read]
          exact ih (tracks.readWord word_read) rest

end ArgumentState

namespace Invocation

variable {commandLine : List String} {invocation : Invocation}

/-- A command line that is accepted without the ban is refused as a conflict if it is banned, and
accepted otherwise. -/
theorem read_of_readFreely (accepted : readFreely commandLine = .ok invocation) :
    (invocation.request.Exclusive → read commandLine = .ok invocation) ∧
      (¬invocation.request.Exclusive → read commandLine = .error .conflict) := by
  rcases exists_of_bind_ok accepted with ⟨⟨meaning, values⟩, arguments_read, rest⟩
  rcases ArgumentState.read_of_readFreely (ArgumentState.tracks_after .program) arguments_read with
    ⟨kept, refused⟩
  cases meaning with
  | operation => cases rest
  | action => cases rest
  | request request =>
      cases rest
      constructor
      · intro exclusive
        rw [read, kept exclusive]
        rfl
      · intro banned
        rw [read, refused banned]
        rfl

/-- What is accepted would be accepted without the ban, and is not banned. -/
theorem readFreely_of_read (accepted : read commandLine = .ok invocation) :
    readFreely commandLine = .ok invocation ∧ invocation.request.Exclusive := by
  have freely : readFreely commandLine = .ok invocation := by
    rcases exists_of_bind_ok accepted with ⟨⟨meaning, values⟩, arguments_read, rest⟩
    rw [readFreely, ArgumentState.readFreely_of_read arguments_read]
    exact rest
  refine ⟨freely, ?_⟩
  by_contra banned
  rw [(read_of_readFreely freely).2 banned] at accepted
  cases accepted

end Invocation

end TapeAdmin
