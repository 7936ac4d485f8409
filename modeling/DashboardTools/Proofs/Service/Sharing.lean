import DashboardTools.Proofs.Http.Building
import DashboardTools.Proofs.Program.Sharing
import DashboardTools.Proofs.Service.Calling

/-!
# Calls that share a credential file

Calls take no notice of each other. Each of them clears the credential file exactly when the answer
before refused its own token, whatever is in the file by then. So a credential that one call renewed
stays in the file, or gives way to one that another call renewed later, until a call clears the file
in that way; and a call that comes late with an old token does clear it.
-/

namespace DashboardTools.Service

open DashboardTools.Api
open DashboardTools.Credential
open DashboardTools.Disk
open DashboardTools.Http
open DashboardTools.Text

/-- A call loaded a record, at some point of its past. -/
def Loaded (service : Service) (past : List (Deed Effect)) (record : Credential) : Prop :=
  ⟨.load service.credentialFile, some record⟩ ∈ past

/-- A call loaded a record or renewed it, so that it may use the record's token. -/
def InHand (service : Service) (past : List (Deed Effect)) (record : Credential) : Prop :=
  service.Loaded past record ∨ ⟨.save service.credentialFile record, .ok ()⟩ ∈ past

/-- A request is to renew the record that was loaded. -/
def AsksToRenew (service : Service) (past : List (Deed Effect)) (request : Request) : Prop :=
  ∃ record, service.Loaded past record ∧
    (service.refreshPlan record.refreshToken).build = .ok request

/-- A request calls under the token of a record in hand. -/
def CallsUnder (service : Service) (past : List (Deed Effect)) (request : Request) : Prop :=
  ∃ record path options, service.InHand past record ∧
    (service.callPlan record.accessToken path options).build = .ok request

/-- A deed is an exchange that refuses a token: a renewal without success, or a call that is
answered with status 401. -/
def Refusal (service : Service) (past : List (Deed Effect)) : Deed Effect → Prop
  | ⟨.exchange request, some reply⟩ =>
    (service.AsksToRenew past request ∧ reply.isSuccess = false) ∨
      (service.CallsUnder past request ∧ reply.status = 401)
  | _ => False

/-- The last deed got an answer that refuses a token. -/
def JustRefused (service : Service) (past : List (Deed Effect)) : Prop :=
  ∃ earlier deed, past = earlier ++ [deed] ∧ service.Refusal earlier deed

/-- A renewal was just answered with a grant that amounts to a credential. -/
def JustGranted (service : Service) (past : List (Deed Effect)) (credential : Credential) : Prop :=
  ∃ earlier request reply grant now,
    past = earlier ++ [⟨.exchange request, some reply⟩, ⟨.wallClock, now⟩] ∧
    service.AsksToRenew earlier request ∧ reply.isSuccess = true ∧
    grantOfBody? reply.body? = some grant ∧ credential = ofGrant grant now

/-- What a call may do after its deeds so far: it clears the credential file after a refusal and
does nothing else then, and it saves nothing but what a renewal was just granted. -/
def CallLaw (service : Service) (past : List (Deed Effect)) : {γ : Type} → Effect γ → Prop
  | _, .clear path => path = service.credentialFile ∧ service.JustRefused past
  | _, .save path credential =>
    path = service.credentialFile ∧ ¬ service.JustRefused past ∧ service.JustGranted past credential
  | _, _ => ¬ service.JustRefused past

/-- A program is a call, for a value or for nothing, or only asks for a token to call with. -/
inductive IsCall (service : Service) : {α : Type} → SessionProgram α → Prop where
  | token : IsCall service service.accessToken?
  | value (path : String) (options : RequestOptions) : IsCall service (service.call path options)
  | nothing (path : String) (options : RequestOptions) :
    IsCall service (service.callForNothing path options)

section Obeying

variable {α : Type} {service : Service} {past : List (Deed Effect)}

/-- A program keeps to the law of calls, and has not just been refused when it ends. -/
abbrev Keeping (service : Service) (program : SessionProgram α) (past : List (Deed Effect)) : Prop :=
  program.Obeys service.CallLaw (fun _ past => ¬ service.JustRefused past) past

/-- Whether a call has just been refused is settled by its last deed alone. -/
theorem justRefused_append_iff (deed : Deed Effect) :
    service.JustRefused (past ++ [deed]) ↔ service.Refusal past deed := by
  constructor
  · rintro ⟨earlier, last, same, refusal⟩
    obtain ⟨rfl, lasts⟩ := List.append_inj' same rfl
    obtain rfl := List.singleton_inj.mp lasts
    exact refusal
  · exact fun refusal => ⟨past, deed, rfl, refusal⟩

/-- What was loaded stays loaded, whatever is done after it. -/
theorem Loaded.append {record : Credential} (loaded : service.Loaded past record)
    (more : List (Deed Effect)) : service.Loaded (past ++ more) record :=
  List.mem_append_left more loaded

/-- The request of a call carries a token, that of a renewal does not. -/
theorem not_asksToRenew_of_call {token path : String} {options : RequestOptions}
    {request : Request} (built : (service.callPlan token path options).build = .ok request) :
    ¬ service.AsksToRenew past request := by
  rintro ⟨record, _, builtToo⟩
  have carries := (Plan.bearer_mem_iff built token).mpr rfl
  cases (Plan.bearer_mem_iff builtToo token).mp carries

/-- A reply with success refuses no token, neither one for access nor one to renew with. -/
theorem not_justRefused_of_success {request : Request} {reply : Reply}
    (success : reply.isSuccess = true) :
    ¬ service.JustRefused (past ++ [⟨.exchange request, some reply⟩]) := by
  intro refused
  rcases (justRefused_append_iff _).mp refused with ⟨_, failure⟩ | ⟨_, status⟩
  · rw [success] at failure
    cases failure
  · simp [Reply.isSuccess, status] at success

/-- Sending does one exchange, and it refuses nothing when there is no answer. -/
theorem send_keeps {plan : Plan} (upheld : ¬ service.JustRefused past) :
    plan.send.Obeys service.CallLaw
      (fun answer latest =>
        match answer with
        | .error _ => ¬ service.JustRefused latest
        | .ok reply => ∃ request, plan.build = .ok request ∧
            latest = past ++ [⟨.exchange request, some reply⟩]) past := by
  unfold Plan.send
  split
  next => exact .value upheld
  next request built =>
    have asked : (SessionProgram.ask (.exchange request)).Obeys service.CallLaw
        (fun reply? now => now = past ++ [⟨.exchange request, reply?⟩]) past :=
      .ask upheld fun _ => rfl
    refine asked.sequence ?_
    rintro reply? _ rfl
    cases reply? with
    | some reply => exact .value ⟨request, built, rfl⟩
    | none => exact .value fun refused => (justRefused_append_iff _).mp refused

/-- Clearing the file answers a refusal, and is none itself. -/
theorem clear_keeps (refused : service.JustRefused past) :
    service.Keeping (SessionProgram.ask (.clear service.credentialFile)) past :=
  .ask ⟨rfl, refused⟩ fun _ again => (justRefused_append_iff _).mp again

/-- What a renewal was granted is saved, and in hand if that succeeds. -/
theorem keepGrant_keeps {request : Request} {reply : Reply} {grant : TokenGrant}
    (asks : service.AsksToRenew past request) (success : reply.isSuccess = true)
    (states : grantOfBody? reply.body? = some grant) :
    (service.keepGrant grant).Obeys service.CallLaw
      (fun result latest => ¬ service.JustRefused latest ∧
        ∀ credential, result = .ok credential → service.InHand latest credential)
      (past ++ [⟨.exchange request, some reply⟩]) := by
  unfold keepGrant
  have looked : (SessionProgram.ask .wallClock).Obeys service.CallLaw
      (fun now latest => latest =
        past ++ [⟨.exchange request, some reply⟩] ++ [⟨.wallClock, now⟩])
      (past ++ [⟨.exchange request, some reply⟩]) :=
    .ask (not_justRefused_of_success success) fun _ => rfl
  refine looked.sequence ?_
  rintro now _ rfl
  have granted : service.JustGranted
      (past ++ [⟨.exchange request, some reply⟩] ++ [⟨.wallClock, now⟩]) (ofGrant grant now) :=
    ⟨past, request, reply, grant, now, by simp, asks, success, states, rfl⟩
  have saved : (SessionProgram.ask (.save service.credentialFile (ofGrant grant now))).Obeys
      service.CallLaw
      (fun result latest => ¬ service.JustRefused latest ∧
        (result = .ok () → service.InHand latest (ofGrant grant now)))
      (past ++ [⟨.exchange request, some reply⟩] ++ [⟨.wallClock, now⟩]) := by
    refine .ask ⟨rfl, fun refused => (justRefused_append_iff _).mp refused, granted⟩
      fun result => ⟨fun refused => (justRefused_append_iff _).mp refused, ?_⟩
    rintro rfl
    exact .inr (List.mem_append_right _ (List.mem_singleton_self _))
  refine saved.sequence fun result latest ⟨upheld, kept⟩ => ?_
  cases result with
  | ok done => exact .value ⟨upheld, fun credential same => Except.ok.inj same ▸ kept rfl⟩
  | error problem => exact .value ⟨upheld, nofun⟩

/-- What a renewal answers is in hand, because it was saved before it was answered. -/
theorem refresh_keeps {record : Credential} (upheld : ¬ service.JustRefused past)
    (loaded : service.Loaded past record) :
    (service.refresh? record.refreshToken).Obeys service.CallLaw
      (fun renewed? latest => ¬ service.JustRefused latest ∧
        ∀ renewed, renewed? = some renewed → service.InHand latest renewed) past := by
  unfold refresh?
  change Program.Obeys _ _ ((service.refreshPlan record.refreshToken).send >>= _) past
  refine (send_keeps upheld).sequence ?_
  rintro (cause | reply) latest answer
  · exact .value ⟨answer, nofun⟩
  · obtain ⟨request, built, rfl⟩ := answer
    have asks : service.AsksToRenew past request := ⟨record, loaded, built⟩
    cases success : reply.isSuccess with
    | false =>
      have refused : service.JustRefused (past ++ [⟨.exchange request, some reply⟩]) :=
        (justRefused_append_iff _).mpr (.inl ⟨asks, success⟩)
      simp only [success, Bool.not_false, if_true]
      exact (clear_keeps refused).sequence fun _ _ upheld => .value ⟨upheld, nofun⟩
    | true =>
      simp only [success, Bool.not_true, Bool.false_eq_true, if_false]
      cases states : grantOfBody? reply.body? with
      | none => exact .value ⟨not_justRefused_of_success success, nofun⟩
      | some grant =>
        refine (keepGrant_keeps asks success states).sequence fun result latest ⟨upheld, kept⟩ => ?_
        cases result with
        | ok credential =>
          exact .value ⟨upheld, fun renewed same => Option.some.inj same ▸ kept credential rfl⟩
        | error problem => exact .value ⟨upheld, nofun⟩

/-- A token to call with is the one of a record in hand. -/
theorem accessToken_keeps (upheld : ¬ service.JustRefused past) :
    service.accessToken?.Obeys service.CallLaw
      (fun token? latest => ¬ service.JustRefused latest ∧
        ∀ token, token? = some token →
          ∃ record, service.InHand latest record ∧ record.accessToken = token) past := by
  unfold accessToken?
  have loaded : (SessionProgram.ask (.load service.credentialFile)).Obeys service.CallLaw
      (fun credential? latest => ¬ service.JustRefused latest ∧
        ∀ credential, credential? = some credential → service.Loaded latest credential) past := by
    refine .ask upheld fun found => ⟨fun refused => (justRefused_append_iff _).mp refused, ?_⟩
    rintro credential rfl
    exact List.mem_append_right _ (List.mem_singleton_self _)
  refine loaded.sequence fun credential? latest ⟨upheld, found⟩ => ?_
  cases credential? with
  | none => exact .value ⟨upheld, nofun⟩
  | some credential =>
    have inHand := found credential rfl
    have looked : (SessionProgram.ask .wallClock).Obeys service.CallLaw
        (fun _ later => ¬ service.JustRefused later ∧ service.Loaded later credential) latest :=
      .ask upheld fun _ =>
        ⟨fun refused => (justRefused_append_iff _).mp refused, inHand.append _⟩
    refine looked.sequence fun now latest ⟨upheld, inHand⟩ => ?_
    split
    next =>
      refine Program.Obeys.sequence (refresh_keeps upheld inHand) ?_
      intro renewed? latest ⟨upheld, kept⟩
      refine .value ⟨upheld, fun token same => ?_⟩
      obtain ⟨renewed, rfl, rfl⟩ := Option.map_eq_some_iff.mp same
      exact ⟨renewed, kept renewed rfl, rfl⟩
    next => exact .value ⟨upheld, fun token same => ⟨credential, .inl inHand, Option.some.inj same⟩⟩

/-- Receiving a reply to a call under a record in hand keeps to the law: the file is cleared exactly
after a refusal, and then nothing more is done. -/
theorem receive_keeps {record : Credential} {path : String} {options : RequestOptions}
    {request : Request} (inHand : service.InHand past record)
    (built : (service.callPlan record.accessToken path options).build = .ok request)
    (reply : Reply) :
    service.Keeping (service.receive reply) (past ++ [⟨.exchange request, some reply⟩]) := by
  unfold receive
  by_cases status : reply.status = 401
  · have refused : service.JustRefused (past ++ [⟨.exchange request, some reply⟩]) :=
      (justRefused_append_iff _).mpr (.inr ⟨⟨record, path, options, inHand, built⟩, status⟩)
    rw [if_pos status]
    exact (clear_keeps refused).sequence fun _ _ upheld => .value upheld
  · have upheld : ¬ service.JustRefused (past ++ [⟨.exchange request, some reply⟩]) := by
      intro refused
      rcases (justRefused_append_iff _).mp refused with ⟨asks, _⟩ | ⟨_, refusing⟩
      · exact not_asksToRenew_of_call built asks
      · exact status refusing
    rw [if_neg status]
    split
    · exact .value upheld
    · split <;> exact .value upheld

/-- Making a call for its body keeps to the law of calls, as long as the call has not just been
refused. -/
theorem callForBody_keeps (path : String) (options : RequestOptions)
    (upheld : ¬ service.JustRefused past) :
    service.Keeping (service.callForBody path options) past := by
  unfold callForBody
  refine (accessToken_keeps upheld).sequence fun token? latest ⟨upheld, held⟩ => ?_
  cases token? with
  | none => exact .value upheld
  | some token =>
    obtain ⟨record, inHand, rfl⟩ := held token rfl
    refine (send_keeps upheld).sequence ?_
    rintro (cause | reply) latest answer
    · exact .value answer
    · obtain ⟨request, built, rfl⟩ := answer
      exact receive_keeps inHand built reply

/-- Every call keeps to the law of calls, from its first deed on and whatever it is answered. -/
theorem IsCall.keeps {program : SessionProgram α} (isCall : service.IsCall program) :
    service.Keeping program [] := by
  have upheld : ¬ service.JustRefused [] := by
    rintro ⟨earlier, deed, same, _⟩
    cases earlier <;> cases same
  cases isCall with
  | token => exact (accessToken_keeps upheld).weaken fun _ _ ⟨upheld, _⟩ => upheld
  | value path options =>
    refine (callForBody_keeps path options upheld).sequence fun result latest upheld => ?_
    split <;> exact .value upheld
  | nothing path options =>
    refine (callForBody_keeps path options upheld).sequence fun result latest upheld => ?_
    split <;> exact .value upheld

end Obeying

deriving instance DecidableEq for Credential

/-- What is done with the credential file: it is loaded with some result, saved with success, or
cleared. -/
inductive Touch where
  | loaded (credential? : Option Credential)
  | saved (credential : Credential)
  | cleared
  deriving DecidableEq

/-- What a deed did with the credential file, if it did something that took effect. -/
def touch? : Deed Effect → Option Touch
  | ⟨.load _, credential?⟩ => some (.loaded credential?)
  | ⟨.save _ credential, .ok ()⟩ => some (.saved credential)
  | ⟨.clear _, _⟩ => some .cleared
  | _ => none

/-- The credential file holds the text of a credential, byte for byte. -/
def Holds (service : Service) (world : World) (credential : Credential) : Prop :=
  service.stored world = .ok (Utf8.encode credential.text.toList)

/-- A save never counts as clearing the file, whether it succeeds or not. -/
theorem touch?_save_ne_cleared (path : Path) (credential : Credential) :
    ∀ answer, touch? ⟨.save path credential, answer⟩ ≠ some .cleared
  | .ok () => nofun
  | .error _ => nofun

section Deeds

variable {γ : Type} {service : Service} {world after : World} {past : List (Deed Effect)}
variable {answer : γ}

/-- An exchange leaves the disk as it is, whatever becomes of the request. -/
theorem exchange_disk (request : Request) (world : World) :
    (World.handle _ (.exchange request) world).2.disk = world.disk := by
  simp only [World.handle, World.exchange]
  cases world.outcomes world.tried <;> rfl

/-- Every effect leaves a well-formed disk well-formed. Only saving and clearing change the disk at
all. -/
theorem handle_wellFormed (effect : Effect γ) (wellFormed : world.disk.WellFormed) :
    (World.handle γ effect world).2.disk.WellFormed := by
  cases effect with
  | save path credential => exact saveOn_wellFormed wellFormed
  | clear path => exact clear_wellFormed wellFormed path
  | exchange request => exact (exchange_disk request world).symm ▸ wellFormed
  | _ => exact wellFormed

/-- A call clears after its token was refused, and does nothing else then. -/
theorem cleared_iff {effect : Effect γ} (lawful : service.CallLaw past effect) :
    touch? ⟨effect, answer⟩ = some .cleared ↔ service.JustRefused past := by
  cases effect with
  | clear path => exact iff_of_true rfl lawful.2
  | save path credential => exact iff_of_false (touch?_save_ne_cleared path credential _) lawful.2.1
  | _ => exact iff_of_false nofun lawful

/-- A save that succeeded is a save of what was just granted, and the file holds it then. -/
theorem holds_of_saved {effect : Effect γ} (lawful : service.CallLaw past effect)
    (wellFormed : world.disk.WellFormed) (answered : World.handle γ effect world = (answer, after))
    {credential : Credential} (saved : touch? ⟨effect, answer⟩ = some (.saved credential)) :
    service.JustGranted past credential ∧ service.Holds after credential := by
  obtain ⟨rfl, rfl⟩ := Prod.ext_iff.mp answered
  cases effect with
  | save path kept =>
    obtain ⟨rfl, _, granted⟩ := lawful
    cases result : (saveOn world.process service.credentialFile kept world.disk).1 with
    | error problem =>
      have same : (World.handle _ (.save service.credentialFile kept) world).1 = .error problem :=
        result
      rw [same] at saved
      cases saved
    | ok done =>
      have same : (World.handle _ (.save service.credentialFile kept) world).1 = .ok done := result
      rw [same] at saved
      obtain rfl := Touch.saved.inj (Option.some.inj saved)
      exact ⟨granted, read_saveOn wellFormed result⟩
  | _ => cases saved

/-- What the file holds stays, unless a deed saves something else or clears the file. -/
theorem holds_of_kept {effect : Effect γ} (lawful : service.CallLaw past effect)
    (wellFormed : world.disk.WellFormed) (answered : World.handle γ effect world = (answer, after))
    {credential : Credential} (holds : service.Holds world credential)
    (unsaved : ∀ fresh, touch? ⟨effect, answer⟩ ≠ some (.saved fresh))
    (uncleared : touch? ⟨effect, answer⟩ ≠ some .cleared) :
    service.Holds after credential := by
  obtain ⟨rfl, rfl⟩ := Prod.ext_iff.mp answered
  cases effect with
  | save path kept =>
    obtain ⟨rfl, _, _⟩ := lawful
    cases result : (saveOn world.process service.credentialFile kept world.disk).1 with
    | error problem => exact read_saveOn_failed wellFormed result holds
    | ok done =>
      have same : (World.handle _ (.save service.credentialFile kept) world).1 = .ok done := result
      rw [same] at unsaved
      exact absurd rfl (unsaved kept)
  | clear path => exact absurd rfl uncleared
  | exchange request =>
    rw [Holds, stored, exchange_disk]
    exact holds
  | _ => exact holds

/-- Right after a clear nothing is stored, whoever stored it and whenever that was. -/
theorem stored_of_cleared {effect : Effect γ} (lawful : service.CallLaw past effect)
    (wellFormed : world.disk.WellFormed) (answered : World.handle γ effect world = (answer, after))
    (clears : touch? ⟨effect, answer⟩ = some .cleared) (held : List UInt8) :
    service.stored after ≠ .ok held := by
  obtain ⟨rfl, rfl⟩ := Prod.ext_iff.mp answered
  cases effect with
  | clear path =>
    obtain ⟨rfl, _⟩ := lawful
    exact read_clear wellFormed _ held
  | save path credential => exact absurd clears (touch?_save_ne_cleared path credential _)
  | _ => cases clears

end Deeds

section Turns

variable {Party : Type} [DecidableEq Party] {Result : Party → Type}

/-- Calls that share a world, and with it one credential file. -/
abbrev Calls (Party : Type) (Result : Party → Type) := Sharing Effect World Party Result

/-- The calls after some turns in a world; between the turns milliseconds may pass. -/
def callsAfter (programs : (party : Party) → SessionProgram (Result party)) (world : World)
    (turns : List (Turn Party Nat)) : Calls Party Result :=
  Sharing.play World.handle (fun delay world => world.advance delay) (.start programs world) turns

variable {service : Service} {calls : Calls Party Result}

/-- After a save the file holds what was saved, or saved since, as long as no call clears it. -/
def KeepsSaves (service : Service) (events : List (Event Effect World Party)) (world : World) : Prop :=
  ∀ earlier event later credential, events = earlier ++ event :: later →
    touch? event.deed = some (.saved credential) →
    (∀ other ∈ later, touch? other.deed ≠ some .cleared) →
    ∃ holder ∈ event :: later, ∃ held,
      touch? holder.deed = some (.saved held) ∧ service.Holds world held

omit [DecidableEq Party] in

/-- A lawful deed that comes next saves something itself, or leaves the file to what was saved. -/
theorem KeepsSaves.append {events : List (Event Effect World Party)}
    {new : Event Effect World Party} (keeps : service.KeepsSaves events new.before)
    {past : List (Deed Effect)} (lawful : service.CallLaw past new.deed.effect)
    (wellFormed : new.before.disk.WellFormed)
    (answered : World.handle _ new.deed.effect new.before = (new.deed.answer, new.after)) :
    service.KeepsSaves (events ++ [new]) new.after := by
  have stores (fresh : Credential) (saved : touch? new.deed = some (.saved fresh)) :
      service.Holds new.after fresh := (holds_of_saved lawful wellFormed answered saved).2
  intro earlier event later credential split saved uncleared
  rcases split_append_singleton split with ⟨rfl, rfl, rfl⟩ | ⟨before, rfl, within⟩
  · exact ⟨_, List.mem_singleton_self _, credential, saved, stores credential saved⟩
  · obtain ⟨holder, among, held, savedHeld, holds⟩ := keeps earlier event before credential
      within saved fun other member => uncleared other (List.mem_append_left _ member)
    by_cases replaced : ∃ fresh, touch? new.deed = some (.saved fresh)
    · obtain ⟨fresh, newest⟩ := replaced
      exact ⟨new, List.mem_cons_of_mem _ (List.mem_append_right _ (List.mem_singleton_self _)),
        fresh, newest, stores fresh newest⟩
    · have left := uncleared new (List.mem_append_right before (List.mem_singleton_self _))
      refine ⟨holder, ?_, held, savedHeld, holds_of_kept lawful wellFormed answered holds
        (fun fresh newest => replaced ⟨fresh, newest⟩) left⟩
      rw [← List.cons_append]
      exact List.mem_append_left _ among

/-- The disk is well-formed throughout, and the file keeps what is saved. -/
structure Kept (service : Service) (calls : Calls Party Result) : Prop where
  wellFormed : calls.state.disk.WellFormed
  wellFormedBefore : ∀ event ∈ calls.events, event.before.disk.WellFormed
  keepsSaves : service.KeepsSaves calls.events calls.state

/-- A lawful deed keeps what is kept, whichever party takes the turn, and so does time that
passes. -/
theorem Kept.take {finished : List (Deed Effect) → Prop}
    (lawful : Lawful World.handle service.CallLaw finished calls) (kept : service.Kept calls)
    (turn : Turn Party Nat) :
    service.Kept (Sharing.take World.handle (fun delay world => world.advance delay) calls turn) := by
  cases turn with
  | pass delay => exact ⟨kept.wellFormed, kept.wellFormedBefore, kept.keepsSaves⟩
  | act party =>
    simp only [Sharing.take]
    split
    next => exact kept
    next γ effect next waits =>
      have obeys := lawful.ready party
      rw [waits, Program.obeys_perform_iff] at obeys
      refine ⟨handle_wellFormed effect kept.wellFormed, fun event member => ?_,
        KeepsSaves.append kept.keepsSaves obeys.1 kept.wellFormed rfl⟩
      rcases List.mem_append.mp member with before | new
      · exact kept.wellFormedBefore event before
      · obtain rfl := List.mem_singleton.mp new
        exact kept.wellFormed

/-- Whatever turns the calls take, what is kept at first is kept throughout. The induction is on the
turns. -/
theorem Kept.play {finished : List (Deed Effect) → Prop}
    (lawful : Lawful World.handle service.CallLaw finished calls) (kept : service.Kept calls)
    (turns : List (Turn Party Nat)) :
    service.Kept
      (Sharing.play World.handle (fun delay world => world.advance delay) calls turns) := by
  induction turns generalizing calls with
  | nil => exact kept
  | cons turn turns inductionHypothesis =>
    exact inductionHypothesis (lawful.take turn) (kept.take lawful turn)

/-- What comes of calls that share a credential file: when it is cleared, and what can be relied on
after that and after a save. -/
structure SharedCourse (service : Service) (calls : Calls Party Result) : Prop where
  /-- A call clears the file in its turn after its own token was refused, and in no other turn. -/
  cleared : ∀ earlier event later, calls.events = earlier ++ event :: later →
    (touch? event.deed = some .cleared ↔ service.JustRefused (deedsOf event.party earlier))
  /-- No call ends between a refusal and the clear. -/
  ended : ∀ party value, calls.programs party = .done value →
    ¬ service.JustRefused (deedsOf party calls.events)
  /-- Nothing is stored right after a clear, whatever was stored before it. -/
  emptied : ∀ event ∈ calls.events, touch? event.deed = some .cleared →
    ∀ held, service.stored event.after ≠ .ok held
  /-- Only what a renewal was granted is saved. -/
  granted : ∀ earlier event later credential, calls.events = earlier ++ event :: later →
    touch? event.deed = some (.saved credential) →
    service.JustGranted (deedsOf event.party earlier) credential
  keepsSaves : service.KeepsSaves calls.events calls.state

/-- Calls that share a credential file, any number of them, take this course in whatever order they
take turns. What one of them saved is not safe from the others: a call whose token is refused clears
the file, whatever the file holds by then. -/
theorem calls_share_their_file (service : Service)
    (programs : (party : Party) → SessionProgram (Result party))
    (areCalls : ∀ party, service.IsCall (programs party)) (world : World)
    (wellFormed : world.disk.WellFormed) (turns : List (Turn Party Nat)) :
    service.SharedCourse (callsAfter programs world turns) := by
  have noEvent {event : Event Effect World Party} {earlier later : List (Event Effect World Party)}
      (split : [] = earlier ++ event :: later) : False := by cases earlier <;> cases split
  have start : Lawful World.handle service.CallLaw (fun past => ¬ service.JustRefused past)
      (Sharing.start programs world) :=
    ⟨fun _ _ _ split => (noEvent split).elim, fun party => (areCalls party).keeps⟩
  have kept : service.Kept (Sharing.start programs world) :=
    ⟨wellFormed, fun _ member => (List.not_mem_nil member).elim,
      fun _ _ _ _ split => (noEvent split).elim⟩
  have lawful : Lawful World.handle service.CallLaw (fun past => ¬ service.JustRefused past)
      (callsAfter programs world turns) := start.play turns
  have keptThen : service.Kept (callsAfter programs world turns) := kept.play start turns
  refine ⟨fun earlier event later split => ?_, fun party value done => ?_,
    fun event member clears => ?_, fun earlier event later credential split saved => ?_,
    keptThen.keepsSaves⟩
  · exact cleared_iff (lawful.past earlier event later split).1
  · have ready := lawful.ready party
    rwa [done, Program.obeys_done_iff] at ready
  · obtain ⟨earlier, later, split⟩ := List.append_of_mem member
    obtain ⟨law, answered⟩ := lawful.past earlier event later split
    exact stored_of_cleared law (keptThen.wellFormedBefore event member) answered clears
  · obtain ⟨law, answered⟩ := lawful.past earlier event later split
    have member : event ∈ (callsAfter programs world turns).events := by
      rw [split]
      exact List.mem_append_right _ List.mem_cons_self
    exact (holds_of_saved law (keptThen.wellFormedBefore event member) answered saved).1

end Turns

/-- What happened to the credential file, the first event first, and who did it. -/
def touches {Party : Type} (events : List (Event Effect World Party)) : List (Party × Touch) :=
  events.filterMap fun event => (touch? event.deed).map fun touch => (event.party, touch)

/-- A touch of the file belongs to a party exactly when some event of that party touched it so. -/
theorem mem_touches_iff {Party : Type} {events : List (Event Effect World Party)} {party : Party}
    {touch : Touch} :
    (party, touch) ∈ touches events ↔
      ∃ event ∈ events, event.party = party ∧ touch? event.deed = some touch := by
  unfold touches
  rw [List.mem_filterMap]
  refine exists_congr fun event => and_congr_right fun _ => ?_
  rw [Option.map_eq_some_iff]
  constructor
  · rintro ⟨_, touched, same⟩
    obtain ⟨rfl, rfl⟩ := Prod.mk.inj same
    exact ⟨rfl, touched⟩
  · rintro ⟨rfl, touched⟩
    exact ⟨touch, touched, rfl⟩

/-- A disk with a session on it, whose credential is due to be refreshed. -/
def sessionDisk : Disk where
  start := []
  nodes := [(["home".toList], .directory directoryMode),
    (["credentials.json".toList, "home".toList], .file fileMode (objectBytes
      ("\"access_token\":\"access\",\"refresh_token\":\"refresh\"," ++
        "\"expires_at\":1700000123.5,\"token_type\":\"Bearer\"")))]

/-- The disk of the shared session is well-formed: its file lies in a directory. -/
theorem sessionDisk_wellFormed : sessionDisk.WellFormed := by
  refine wellFormed_of_nodes ⟨_, rfl⟩ ?_
  intro entry member
  rcases List.mem_cons.mp member with rfl | last
  · exact ⟨_, rfl⟩
  · obtain rfl := List.mem_singleton.mp last
    exact ⟨_, rfl⟩

/-- A service that grants the first request a new session and refuses the token of the second; the
stored session is due for renewal after 1000 seconds. -/
def renewingWorld : World :=
  { sampleWorld with
    disk := sessionDisk
    wall := 1699999000000
    outcomes
      | 0 => objectReply 200 ("\"access_token\":\"new\",\"refresh_token\":\"next\"," ++
          "\"expires_in\":3600,\"token_type\":\"Bearer\"")
      | 1 => .replied 5 ⟨401, none⟩
      | _ => objectReply 200 "" }

/-- The session that the first request is granted, as it is recorded five milliseconds after the
start. -/
def renewedCredential : Credential := ofGrant ⟨"new", "next", 3600, "Bearer"⟩ 1700000000.005

/-- Two calls that do the same: each asks for the account, and finds the one session. -/
def twoCalls (_ : Bool) : SessionProgram (Except Error Json.Value) :=
  sampleService.call "/v1/dashboard/me" (.ofMethod "GET")

/-- Each of the two calls is a call under the law. -/
theorem twoCalls_areCalls (party : Bool) : sampleService.IsCall (twoCalls party) := .value _ _

/-- Both calls load the session when it is due, and the first one renews it. -/
def bothDue : List (Turn Bool Nat) :=
  [.pass 1000000, .act true, .act true, .act false, .act false, .act true, .act true, .act true]

/-- The second call loads the session before it is due, and the first one renews it then. -/
def oneDue : List (Turn Bool Nat) :=
  [.act false, .act false, .pass 1000000, .act true, .act true, .act true, .act true, .act true]

/-- Two calls that both find the session due keep the premises. A credential that one of them saved
is what the file holds at the end. -/
theorem renewed_session_is_held :
    (∀ party, sampleService.IsCall (twoCalls party)) ∧ renewingWorld.disk.WellFormed ∧
    ∃ event ∈ (callsAfter twoCalls renewingWorld bothDue).events, ∃ held,
      touch? event.deed = some (.saved held) ∧
      sampleService.Holds (callsAfter twoCalls renewingWorld bothDue).state held := by
  have course := calls_share_their_file sampleService twoCalls twoCalls_areCalls renewingWorld
    sessionDisk_wellFormed bothDue
  have touched : touches (callsAfter twoCalls renewingWorld bothDue).events =
      [(true, .loaded (some sampleCredential)), (false, .loaded (some sampleCredential)),
        (true, .saved renewedCredential)] := by decide +kernel
  have uncleared : ∀ event ∈ (callsAfter twoCalls renewingWorld bothDue).events,
      touch? event.deed ≠ some .cleared := by
    intro event member clears
    have among := mem_touches_iff.mpr ⟨event, member, rfl, clears⟩
    rw [touched] at among
    simp at among
  obtain ⟨event, member, _, saved⟩ := mem_touches_iff.mp
    (touched ▸ List.mem_of_getLast? rfl :
      (true, .saved renewedCredential) ∈ touches (callsAfter twoCalls renewingWorld bothDue).events)
  obtain ⟨earlier, later, split⟩ := List.append_of_mem member
  rw [split] at uncleared ⊢
  obtain ⟨holder, among, held⟩ := course.keepsSaves earlier event later renewedCredential split saved
    fun other after => uncleared other (List.mem_append_right _ (List.mem_cons_of_mem _ after))
  exact ⟨twoCalls_areCalls, sessionDisk_wellFormed, holder, List.mem_append_right _ among, held⟩

/-- What is loaded after some turns of the two calls. -/
def sessionAfter (turns : List (Turn Bool Nat)) : Option Credential :=
  load? (callsAfter twoCalls renewingWorld turns).state.disk samplePath

/-- The second call goes on, and then the first one. -/
def goOn : List (Turn Bool Nat) := [.act false, .act false, .act true]

/-- A call that loaded the old record clears the file after another call saved a new one: after its
own renewal is refused, and also after its own request under the old token is. -/
theorem late_call_clears_renewed_session :
    (sessionAfter bothDue = some renewedCredential ∧
      touches (callsAfter twoCalls renewingWorld (bothDue ++ goOn)).events =
        [(true, .loaded (some sampleCredential)), (false, .loaded (some sampleCredential)),
          (true, .saved renewedCredential), (false, .cleared)] ∧
      sessionAfter (bothDue ++ goOn) = none) ∧
    (sessionAfter oneDue = some renewedCredential ∧
      touches (callsAfter twoCalls renewingWorld (oneDue ++ goOn)).events =
        [(false, .loaded (some sampleCredential)), (true, .loaded (some sampleCredential)),
          (true, .saved renewedCredential), (false, .cleared)] ∧
      sessionAfter (oneDue ++ goOn) = none) := by
  decide +kernel

end DashboardTools.Service
