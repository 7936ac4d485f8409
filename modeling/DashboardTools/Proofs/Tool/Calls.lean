import DashboardTools.Proofs.Program.Running
import DashboardTools.Tool.Server

/-!
# How tool calls run

A call with bad arguments is over before it began. Any other call carries out the operation of its
tool and then answers what that came to. The operation is told apart here from the answer that is
made of it, so that what the operation found can be spoken of.
-/

namespace DashboardTools.Tool

open DashboardTools.Json

/-- What an operation came to, before anything is made of it for an answer. -/
inductive Finding where
  | started (outcome : Except AuthError DeviceAuthorization)
  | polled (outcome : Except AuthError PollOutcome)
  | searched (outcome : Except Error (List Docs.Hit))
  | lookedUp (outcome : Except Error Docs.Page)
  | called (outcome : Except Error Value)

/-- The error that an operation came to, if it came to one. An expired or denied login is none. -/
def Finding.error? : Finding → Option Error
  | .started (.error error) => some error.toError
  | .polled (.error error) => some error.toError
  | .searched (.error error) => some error
  | .lookedUp (.error error) => some error
  | .called (.error error) => some error
  | _ => none

/-- A tool's operation, with what is kept of the documentation. -/
def operate (tool : Tool) (server : ToolServer) (cached? : Option Docs.Cached) (given : Given) :
    SessionProgram (Finding × Option Docs.Cached) :=
  match tool.operation with
  | .startDevice => do
    let outcome ← server.service.startDevice
    pure (.started outcome, cached?)
  | .pollDevice => do
    let outcome ← server.service.poll ((given.own.text? "device_code").getD "")
    pure (.polled outcome, cached?)
  | .searchDocs => do
    let (outcome, kept?) ← server.site.search cached? ((given.own.text? "query").getD "")
      (categoryArgument? given.own) ((given.own.find? "limit").bind Argument.count?)
    pure (.searched outcome, kept?)
  | .getDoc => do
    let (outcome, kept?) ← server.site.page cached? ((given.own.text? "path").getD "")
    pure (.lookedUp outcome, kept?)
  | .call method endpoint use _ => do
    let outcome ← tool.callEndpoint server.service given method endpoint use
    pure (.called outcome, cached?)

/-- How a tool reacts to what a call of the service came to. -/
def reaction (tool : Tool) : Reaction :=
  match tool.operation with
  | .call _ _ _ reaction => reaction
  | _ => .passed

/-- What a tool answers to what its operation came to. -/
def answer (tool : Tool) : Finding → Result
  | .started outcome =>
    respond ((outcome.map DeviceAuthorization.toValue).mapError AuthError.toError)
  | .polled outcome => pollResult outcome
  | .searched outcome => respond (outcome.map Docs.hitsValue)
  | .lookedUp outcome => respond (outcome.map Docs.Page.toValue)
  | .called outcome => tool.reaction.apply outcome

variable {State : Type} (handler : Handler Effect State) (tool : Tool) (server : ToolServer)
variable (cached? : Option Docs.Cached)

/-- To perform an operation is to carry it out and to answer what it came to. -/
theorem run_perform (given : Given) (state : State) :
    (tool.perform server cached? given).run handler state =
      let ran := (tool.operate server cached? given).run handler state
      ((tool.answer ran.1.1, ran.1.2), ran.2) := by
  unfold perform operate answer reaction
  cases tool.operation <;> simp only [Program.run_sequence, Program.run_pure]

variable {tool} {name : String} {fields : List (String × Value)}

/-- A call with bad arguments does nothing: its effects are none, and what is kept of the
documentation stays. -/
theorem run_call_refused (found : named? name = some tool) {problem : ArgumentProblem}
    (refused : tool.readGiven fields = .error problem) (state : State) :
    (server.call cached? name fields).run handler state =
      ((.error (.badArguments problem), cached?), state) := by
  unfold ToolServer.call
  simp only [found, refused, Program.run_pure]

/-- Any other call answers what the operation came to, and hands back what is kept of the
documentation. -/
theorem run_call_given (found : named? name = some tool) {given : Given}
    (read : tool.readGiven fields = .ok given) (state : State) :
    (server.call cached? name fields).run handler state =
      let ran := (tool.operate server cached? given).run handler state
      ((.ok (tool.answer ran.1.1), ran.1.2), ran.2) := by
  unfold ToolServer.call
  simp only [found, read, Program.run_sequence, Program.run_pure, run_perform]

/-- The operation of a tool that calls the service touches nothing that is kept of the
documentation. -/
theorem run_operate_call {method : String} {endpoint : List Segment} {use : InputUse}
    {reaction : Reaction} (operation : tool.operation = .call method endpoint use reaction)
    (given : Given) (state : State) :
    (tool.operate server cached? given).run handler state =
      let ran := (tool.callEndpoint server.service given method endpoint use).run handler state
      ((.called ran.1, cached?), ran.2) := by
  unfold operate
  simp only [operation, Program.run_sequence, Program.run_pure]

end DashboardTools.Tool
