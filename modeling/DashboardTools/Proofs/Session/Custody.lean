import DashboardTools.Docs.Client
import DashboardTools.Proofs.Program.Points
import DashboardTools.Proofs.Service.Renewal
import DashboardTools.Service.Call
import DashboardTools.Service.Device

/-!
# Who holds which token

Whatever is on the disk of a session was there at its beginning or is the record of one answer that
a token endpoint gave since then. And whatever is sent has one of a few purposes; only a call to the
service carries a token in a header, and that token is the one of the record that is stored while
the call is sent. Both are kept by each effect that a session program asks for, and so at every
point of every run.
-/

namespace DashboardTools

open DashboardTools.Api
open DashboardTools.Credential
open DashboardTools.Disk
open DashboardTools.Http
open DashboardTools.Text

namespace Service

/-- The plan of a request for a device code, which names the client and nobody else. -/
def devicePlan (service : Service) : Plan :=
  service.authPlan "/v1/auth/device" (.object [("client_id", .string clientName)])

/-- The plan of a poll, which posts the device code to the service. -/
def pollPlan (service : Service) (deviceCode : String) : Plan :=
  service.authPlan "/v1/auth/device/token" (pollBody deviceCode)

/-- A request polls for a login exactly when it is what the plan of that poll comes to. -/
theorem isPollRequest_iff_build {service : Service} {deviceCode : String} {request : Request} :
    service.IsPollRequest deviceCode request ↔ (service.pollPlan deviceCode).build = .ok request :=
  posts_iff_build

/-- The credential file keeps a record: it holds the record's text, or another that states it. -/
def Keeps (service : Service) (world : World) (record : Credential) : Prop :=
  ∃ bytes, service.stored world = .ok bytes ∧
    (bytes = Utf8.encode record.text.toList ∨ (Utf8.decode? bytes).bind parse? = some record)

/-- A token endpoint answers a renewal or a poll with success, and its answer states a grant. -/
def Delivers (service : Service) (exchange : Exchange) (grant : TokenGrant) : Prop :=
  ((∃ token, service.IsRenewalRequest token exchange.request) ∨
      ∃ deviceCode, service.IsPollRequest deviceCode exchange.request) ∧
    ∃ reply, exchange.reply? = some reply ∧ reply.isSuccess = true ∧ StatesGrant reply grant

/-- Bytes are the text of the record of one answer. All tokens of that record come from this answer,
and it expires as long after the answer as the answer says. -/
def Granted (service : Service) (exchanges : List Exchange) (bytes : List UInt8) : Prop :=
  ∃ exchange ∈ exchanges, ∃ grant, ∃ record : Credential, service.Delivers exchange grant ∧
    record.IsRecordOf grant exchange.after.now ∧ bytes = Utf8.encode record.text.toList

/-- What was granted by some exchanges is still granted by them when more have been made. -/
theorem Granted.later {service : Service} {exchanges : List Exchange} {bytes : List UInt8}
    (granted : service.Granted exchanges bytes) (more : List Exchange) :
    service.Granted (exchanges ++ more) bytes := by
  obtain ⟨exchange, member, rest⟩ := granted
  exact ⟨exchange, List.mem_append_left _ member, rest⟩

end Service

/-- What a session may send in a world. Tokens of the stored record are sent in calls and in
renewals; a renewal may also be asked for with a token at hand. -/
inductive Purpose (service : Service) (site : Docs.Site) (handed : String → Prop) (world : World) :
    Plan → Prop where
  | call (record : Credential) (path : String) (options : RequestOptions)
    (keeps : service.Keeps world record) :
    Purpose service site handed world (service.callPlan record.accessToken path options)
  | renewal (record : Credential) (keeps : service.Keeps world record) :
    Purpose service site handed world (service.refreshPlan record.refreshToken)
  | renewalInHand (token : String) (inHand : handed token) :
    Purpose service site handed world (service.refreshPlan token)
  | device : Purpose service site handed world service.devicePlan
  | poll (deviceCode : String) :
    Purpose service site handed world (service.pollPlan deviceCode)
  | docs : Purpose service site handed world site.plan

/-- A world since an origin: every file was there then or is a record granted since. -/
structure Guarded (service : Service) (origin : World) (since : List Exchange) (world : World) :
    Prop where
  wellFormed : world.disk.WellFormed
  directories : origin.disk.KeepsDirectories world.disk
  files : ∀ location bytes, world.disk.bytesAt? location = some bytes →
    origin.disk.bytesAt? location = some bytes ∨ service.Granted since bytes

/-- A chronicle since an origin: its world is guarded, and so was the world of each exchange, which
had a purpose. -/
def Custody (service : Service) (site : Docs.Site) (handed : String → Prop)
    (origin point : Chronicle) : Prop :=
  ∃ since, point.exchanges = origin.exchanges ++ since ∧
    Guarded service origin.world since point.world ∧
    ∀ earlier exchange later, since = earlier ++ exchange :: later →
      Guarded service origin.world earlier exchange.before ∧
        ∃ plan, Purpose service site handed exchange.before plan ∧
          plan.build = .ok exchange.request

variable {service : Service} {site : Docs.Site} {handed : String → Prop}
variable {origin point : Chronicle}

/-- At its origin a chronicle is in custody: nothing has been sent, and the credential file is as it
was found. -/
theorem Custody.begin (origin : Chronicle) (wellFormed : origin.world.disk.WellFormed) :
    Custody service site handed origin origin :=
  ⟨[], (List.append_nil _).symm, ⟨wellFormed, .refl _, fun _ _ there => .inl there⟩,
    fun earlier exchange later split => absurd split (by simp)⟩

/-- The disk stays well-formed in custody, so paths lead where they should at every point. -/
theorem Custody.wellFormed (custody : Custody service site handed origin point) :
    point.world.disk.WellFormed := by
  obtain ⟨since, _, guarded, _⟩ := custody
  exact guarded.wellFormed

/-- What leaves the disk and the exchanges alone keeps custody. -/
theorem Custody.unchanged (custody : Custody service site handed origin point) {next : Chronicle}
    (exchanges : next.exchanges = point.exchanges) (disk : next.world.disk = point.world.disk) :
    Custody service site handed origin next := by
  obtain ⟨since, done, guarded, sent⟩ := custody
  refine ⟨since, exchanges.trans done, ⟨?_, ?_, ?_⟩, sent⟩
  · rw [disk]
    exact guarded.wellFormed
  · rw [disk]
    exact guarded.directories
  · rw [disk]
    exact guarded.files

/-- Clearing any path keeps custody. It can only take a file away. -/
theorem Custody.cleared (custody : Custody service site handed origin point) (path : Path) :
    Custody service site handed origin (Chronicle.handle _ (.clear path) point).2 := by
  obtain ⟨since, done, guarded, sent⟩ := custody
  refine ⟨since, done, ⟨clear_wellFormed guarded.wellFormed path,
    guarded.directories.trans (clear_keepsDirectories _ path), fun location bytes there => ?_⟩, sent⟩
  exact guarded.files location bytes (bytesAt?_of_clear there)

/-- A list with one more entry splits at that entry or at one before it. -/
theorem split_at_end {entries earlier later : List Exchange} {last entry : Exchange}
    (split : entries ++ [last] = earlier ++ entry :: later) :
    (earlier = entries ∧ entry = last) ∨ ∃ rest, entries = earlier ++ entry :: rest := by
  rcases List.eq_nil_or_concat later with rfl | ⟨rest, final, rfl⟩
  · obtain ⟨same, one⟩ := List.append_inj' split rfl
    exact .inl ⟨same.symm, (List.cons.inj one).1.symm⟩
  · rw [List.concat_eq_append, ← List.cons_append, ← List.append_assoc] at split
    exact .inr ⟨rest, (List.append_inj' split rfl).1⟩

/-- A request with a purpose keeps custody, whatever the network makes of it. -/
theorem Custody.sent (custody : Custody service site handed origin point) {plan : Plan}
    (purpose : Purpose service site handed point.world plan) {request : Request}
    (built : plan.build = .ok request) :
    Custody service site handed origin (Chronicle.handle _ (.exchange request) point).2 := by
  obtain ⟨since, done, guarded, sent⟩ := custody
  have sameDisk := Exchange.of_after_disk request point.world
  refine ⟨since ++ [.of request point.world], ?_, ⟨?_, ?_, ?_⟩, ?_⟩
  · simp [Chronicle.handle, done]
  · simp only [Chronicle.handle, sameDisk]
    exact guarded.wellFormed
  · simp only [Chronicle.handle, sameDisk]
    exact guarded.directories
  · intro location bytes there
    simp only [Chronicle.handle, sameDisk] at there
    rcases guarded.files location bytes there with before | granted
    · exact .inl before
    · exact .inr (granted.later _)
  · intro earlier exchange later split
    rcases split_at_end split with ⟨rfl, rfl⟩ | ⟨rest, before⟩
    · exact ⟨guarded, plan, purpose, built⟩
    · exact sent earlier exchange rest before

/-- A grant that was just received: an exchange since the origin delivered it, and no time has
passed after it. -/
def Received (service : Service) (origin point : Chronicle) (grant : TokenGrant) : Prop :=
  ∃ since exchange, point.exchanges = origin.exchanges ++ since ∧ exchange ∈ since ∧
    service.Delivers exchange grant ∧ exchange.after.now = point.world.now

/-- Saving the record of a grant just received keeps custody. -/
theorem Custody.saved (custody : Custody service site handed origin point) {grant : TokenGrant}
    (received : Received service origin point grant) (path : Path) :
    Custody service site handed origin
      (Chronicle.handle _ (.save path (ofGrant grant point.world.now)) point).2 := by
  obtain ⟨since, done, guarded, sent⟩ := custody
  obtain ⟨others, exchange, same, member, delivers, now⟩ := received
  obtain rfl : since = others := List.append_cancel_left (done.symm.trans same)
  refine ⟨since, done, ⟨saveOn_wellFormed guarded.wellFormed,
    guarded.directories.trans (saveOn_keepsDirectories guarded.wellFormed),
    fun location bytes there => ?_⟩, sent⟩
  rcases bytesAt?_of_saveOn guarded.wellFormed there with before | ⟨_, new⟩
  · exact guarded.files location bytes before
  · exact .inr ⟨exchange, member, grant, _, delivers, isRecordOf_iff.mpr rfl, now ▸ new⟩

variable {α β : Type}

/-- A run never loses custody, and ends as `post` says. -/
abbrev Upholds (service : Service) (site : Docs.Site) (handed : String → Prop) (origin : Chronicle)
    (post : α → Chronicle → Prop) (program : SessionProgram α) (chronicle : Chronicle) : Prop :=
  program.Holds Chronicle.handle (Custody service site handed origin)
    (fun value last => Custody service site handed origin last ∧ post value last) chronicle

/-- A program that never loses custody wherever it starts with it. -/
abbrev Careful (service : Service) (site : Docs.Site) (handed : String → Prop) (origin : Chronicle)
    (program : SessionProgram α) : Prop :=
  program.Maintains Chronicle.handle (Custody service site handed origin)

/-- A program that upholds custody from wherever it starts is careful. -/
theorem Upholds.careful {post : α → Chronicle → Prop} {program : SessionProgram α}
    (upholds : ∀ chronicle, Custody service site handed origin chronicle →
      Upholds service site handed origin post program chronicle) :
    Careful service site handed origin program :=
  fun chronicle custody => (upholds chronicle custody).weaken fun _ _ ends => ends.1

/-- A reply comes from an exchange since the origin, and no time has passed after it. -/
def Answered (origin last : Chronicle) (plan : Plan) (reply : Reply) : Prop :=
  ∃ since exchange, last.exchanges = origin.exchanges ++ since ∧ exchange ∈ since ∧
    plan.build = .ok exchange.request ∧ exchange.reply? = some reply ∧
    exchange.after.now = last.world.now

/-- The reply to an exchange was answered since the origin, and no time has passed since it came. -/
theorem Custody.answered (custody : Custody service site handed origin point) {plan : Plan}
    {request : Request} (built : plan.build = .ok request) {reply : Reply}
    (replied : (Chronicle.handle _ (.exchange request) point).1 = some reply) :
    Answered origin (Chronicle.handle _ (.exchange request) point).2 plan reply := by
  obtain ⟨since, done, _⟩ := custody
  refine ⟨since ++ [.of request point.world], .of request point.world, ?_, ?_, built, replied, rfl⟩
  · simp [Chronicle.handle, done]
  · exact List.mem_append_right _ List.mem_cons_self

/-- A plan with a purpose is sent without losing custody, and a reply to it comes from that very
exchange. -/
theorem send_upholds (custody : Custody service site handed origin point) {plan : Plan}
    (purpose : Purpose service site handed point.world plan) :
    Upholds service site handed origin
      (fun answer last => ∀ reply, answer = .ok reply → Answered origin last plan reply)
      plan.send point := by
  unfold Plan.send
  cases built : plan.build with
  | error cause => exact .value ⟨custody, fun reply answer => by cases answer⟩
  | ok request =>
    have sent := custody.sent purpose built
    have asked : Upholds service site handed origin
        (fun reply? last => ∀ reply, reply? = some reply → Answered origin last plan reply)
        (SessionProgram.ask (.exchange request)) point :=
      .ask sent ⟨sent, fun reply replied => custody.answered built replied⟩
    refine asked.sequence fun reply? last ends => ?_
    cases reply? with
    | none => exact .value ⟨ends.1, fun reply answer => by cases answer⟩
    | some reply =>
      refine .value ⟨ends.1, fun other same => ?_⟩
      obtain rfl := Except.ok.inj same
      exact ends.2 _ rfl

/-- A grant just received is kept without losing custody, and then the file keeps the record that
was made of it. -/
theorem keepGrant_upholds (custody : Custody service site handed origin point) {grant : TokenGrant}
    (received : Received service origin point grant) :
    Upholds service site handed origin
      (fun result last => ∀ credential, result = .ok credential →
        service.Keeps last.world credential)
      (service.keepGrant grant) point := by
  have look : Upholds service site handed origin
      (fun now last => point = last ∧ point.world.now = now)
      (SessionProgram.ask .wallClock) point := .ask custody ⟨custody, rfl, rfl⟩
  refine look.sequence ?_
  rintro _ _ ⟨_, rfl, rfl⟩
  have saved := custody.saved received service.credentialFile
  have save : Upholds service site handed origin
      (fun result last => result = .ok () →
        service.Keeps last.world (ofGrant grant point.world.now))
      (SessionProgram.ask (.save service.credentialFile (ofGrant grant point.world.now))) point :=
    .ask saved ⟨saved, fun worked => ⟨_, read_saveOn custody.wellFormed worked, .inl rfl⟩⟩
  refine save.sequence fun result last ends => ?_
  cases result with
  | ok done =>
    refine .value ⟨ends.1, fun credential same => ?_⟩
    obtain rfl := Except.ok.inj same
    exact ends.2 rfl
  | error problem => exact .value ⟨ends.1, fun credential same => by cases same⟩

/-- The credential file is cleared without losing custody, since clearing stores nothing. -/
theorem clear_careful (path : Path) :
    Careful service site handed origin (SessionProgram.ask (.clear path)) :=
  .ask fun _ custody => custody.cleared path

/-- A renewal with a purpose ends, if it succeeds, in the record that is then stored. -/
theorem refresh_upholds (custody : Custody service site handed origin point) {token : String}
    (purpose : Purpose service site handed point.world (service.refreshPlan token)) :
    Upholds service site handed origin
      (fun renewed? last => ∀ renewed, renewed? = some renewed → service.Keeps last.world renewed)
      (service.refresh? token) point := by
  rw [Service.refresh?, ← Service.refreshPlan]
  refine (send_upholds custody purpose).sequence ?_
  rintro answer last ⟨kept, answered⟩
  cases answer with
  | error cause => exact .value ⟨kept, fun renewed same => by cases same⟩
  | ok reply =>
    obtain ⟨since, exchange, done, member, built, replied, now⟩ := answered reply rfl
    cases success : reply.isSuccess with
    | false =>
      simp only [success, Bool.not_false, if_true]
      refine ((clear_careful service.credentialFile) last kept).sequence fun _ next cleared => ?_
      exact .value ⟨cleared, fun renewed same => by cases same⟩
    | true =>
      simp only [success, Bool.not_true, Bool.false_eq_true, if_false]
      cases states : Service.grantOfBody? reply.body? with
      | none => exact .value ⟨kept, fun renewed same => by cases same⟩
      | some grant =>
        have received : Received service origin last grant :=
          ⟨since, exchange, done, member,
            ⟨.inl ⟨token, Service.isRenewalRequest_iff_build.mpr built⟩, reply, replied, success,
              Service.grantOfBody?_eq_some_iff.mp states⟩, now⟩
        refine (keepGrant_upholds kept received).sequence ?_
        rintro result next ⟨held, keeps⟩
        cases result with
        | ok credential =>
          refine .value ⟨held, fun renewed same => ?_⟩
          obtain rfl := Option.some.inj same
          exact keeps _ rfl
        | error problem => exact .value ⟨held, fun renewed same => by cases same⟩

/-- A token to call with is the one of the record that is then stored. -/
theorem accessToken_upholds (custody : Custody service site handed origin point) :
    Upholds service site handed origin
      (fun token? last => ∀ token, token? = some token →
        ∃ record, service.Keeps last.world record ∧ record.accessToken = token)
      service.accessToken? point := by
  have look : Upholds service site handed origin
      (fun stored? last => point = last ∧
        load? point.world.disk service.credentialFile = stored?)
      (SessionProgram.ask (.load service.credentialFile)) point := .ask custody ⟨custody, rfl, rfl⟩
  refine look.sequence ?_
  rintro _ _ ⟨_, rfl, rfl⟩
  cases loaded : load? point.world.disk service.credentialFile with
  | none => exact .value ⟨custody, fun token same => by cases same⟩
  | some record =>
    obtain ⟨bytes, readable, states⟩ := read_of_load? loaded
    have keeps : service.Keeps point.world record := ⟨bytes, readable, .inr states⟩
    have time : Upholds service site handed origin (fun _ last => point = last)
        (SessionProgram.ask .wallClock) point := .ask custody ⟨custody, rfl⟩
    refine time.sequence ?_
    rintro now _ ⟨_, rfl⟩
    split
    · have purpose : Purpose service site handed point.world
          (service.refreshPlan record.refreshToken) := .renewal record keeps
      refine (refresh_upholds custody purpose).sequence ?_
      rintro renewed? last ⟨kept, keeps⟩
      refine .value ⟨kept, fun token same => ?_⟩
      obtain ⟨renewed, found, rfl⟩ := Option.map_eq_some_iff.mp same
      exact ⟨renewed, keeps renewed found, rfl⟩
    · refine .value ⟨custody, fun token same => ?_⟩
      obtain rfl := Option.some.inj same
      exact ⟨record, keeps, rfl⟩

/-- Asking for an access token is careful, whether a stored token will do or is renewed first. -/
theorem accessToken_careful : Careful service site handed origin service.accessToken? :=
  Upholds.careful fun _ custody => accessToken_upholds custody

/-- A renewal that is asked for sends the token at hand. -/
theorem refresh_careful {token : String} (inHand : handed token) :
    Careful service site handed origin (service.refresh? token) :=
  Upholds.careful fun _ custody => refresh_upholds custody (.renewalInHand token inHand)

/-- Receiving the reply to a call is careful: it sends nothing, and at most it clears the credential
file. -/
theorem receive_careful (reply : Reply) :
    Careful service site handed origin (service.receive reply) := by
  unfold Service.receive
  split
  · exact .sequence (clear_careful _) fun _ => .value _
  · split
    · exact .value _
    · split <;> exact .value _

/-- Making a call for its body is careful, from the token it asks for to the reply it receives. -/
theorem callForBody_careful (path : String) (options : RequestOptions) :
    Careful service site handed origin (service.callForBody path options) := by
  intro chronicle custody
  refine (accessToken_upholds custody).sequence ?_
  rintro token? next ⟨kept, stored⟩
  cases token? with
  | none => exact .value kept
  | some token =>
    obtain ⟨record, keeps, rfl⟩ := stored token rfl
    have purpose : Purpose service site handed next.world
        (service.callPlan record.accessToken path options) := .call record path options keeps
    refine (send_upholds kept purpose).sequence ?_
    rintro answer last ⟨held, _⟩
    cases answer with
    | error cause => exact .value held
    | ok reply => exact receive_careful reply last held

/-- A call is careful. What is made of the body needs no effect. -/
theorem call_careful (path : String) (options : RequestOptions) :
    Careful service site handed origin (service.call path options) :=
  .sequence (callForBody_careful path options) fun result => by
    cases result <;> exact .value _

/-- A call for nothing is careful, since it is a call whose body is read in another way. -/
theorem callForNothing_careful (path : String) (options : RequestOptions) :
    Careful service site handed origin (service.callForNothing path options) :=
  .sequence (callForBody_careful path options) fun result => by
    cases result <;> exact .value _

/-- Starting a login is careful: what it sends holds no token, and it leaves the disk alone. -/
theorem startDevice_careful : Careful service site handed origin service.startDevice := by
  intro chronicle custody
  unfold Service.startDevice
  have purpose : Purpose service site handed chronicle.world service.devicePlan := .device
  refine (send_upholds custody purpose).sequence ?_
  rintro answer last ⟨held, _⟩
  cases answer with
  | error cause => exact .value held
  | ok reply =>
    dsimp only
    split
    · exact .value held
    · split <;> exact .value held

/-- A poll that is granted saves the record of its own answer. -/
theorem poll_careful (deviceCode : String) :
    Careful service site handed origin (service.poll deviceCode) := by
  intro chronicle custody
  have purpose : Purpose service site handed chronicle.world (service.pollPlan deviceCode) :=
    .poll deviceCode
  refine (send_upholds custody purpose).sequence ?_
  rintro answer last ⟨held, answered⟩
  cases answer with
  | error cause => exact .value held
  | ok reply =>
    obtain ⟨since, exchange, done, member, built, replied, now⟩ := answered reply rfl
    simp only [Service.receivePoll]
    split
    · exact .value held
    · cases success : reply.isSuccess with
      | false => exact .value held
      | true =>
        simp only [Bool.not_true, Bool.false_eq_true, if_false]
        cases states : Service.grantOfBody? reply.body? with
        | none => exact .value held
        | some grant =>
          have received : Received service origin last grant :=
            ⟨since, exchange, done, member,
              ⟨.inr ⟨deviceCode, Service.isPollRequest_iff_build.mpr built⟩, reply, replied, success,
                Service.grantOfBody?_eq_some_iff.mp states⟩, now⟩
          refine (keepGrant_upholds held received).sequence ?_
          rintro result next ⟨kept, _⟩
          cases result <;> exact .value kept

/-- Fetching documentation again is careful: its request holds no token of the session. -/
theorem refetch_careful (cached? : Option Docs.Cached) :
    Careful service site handed origin (site.refetch cached?) := by
  intro chronicle custody
  have purpose : Purpose service site handed chronicle.world site.plan := .docs
  refine (send_upholds custody purpose).sequence ?_
  rintro answer last ⟨held, _⟩
  cases answer with
  | error cause => exact .value held
  | ok reply =>
    dsimp only
    split
    · exact .value held
    · exact (Program.Maintains.ask fun _ kept => kept).sequence (fun _ => .value _) last held

/-- Serving documentation is careful, whether or not it has to be fetched. -/
theorem fetch_careful (cached? : Option Docs.Cached) :
    Careful service site handed origin (site.fetch cached?) := by
  unfold Docs.Site.fetch
  split
  · exact refetch_careful none
  · refine .sequence (.ask fun _ kept => kept) fun now => ?_
    split
    · exact .value _
    · exact refetch_careful _

end DashboardTools
