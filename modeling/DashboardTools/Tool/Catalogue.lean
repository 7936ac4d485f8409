import DashboardTools.Docs.Category
import DashboardTools.Tool.Endpoint

/-!
# The tools

Each tool has a name, a description and parameters, and an operation that its arguments are used
for. Most operations are one call to the service. The parameters that make up the body or query of
the call are kept apart from the others, which are looked at first.
-/

namespace DashboardTools.Tool

/-- What a call does with the parameters that are kept apart. -/
inductive InputUse where
  | unused
  | body
  | query
  deriving DecidableEq

/-- What is answered after a successful call. An error is answered alike by all of them, but for one
status. -/
inductive Reaction where
  /-- The value that the service answered. -/
  | passed
  /-- The value with a warning put into it. -/
  | warned (text : String)
  /-- A message in place of the value. -/
  | acknowledged (message : String)
  /-- The value, or a message when the service has none. -/
  | passedIfFound (message : String)
  deriving DecidableEq

/-- What a tool does: one of the four operations of its own kind, or a call of the service. -/
inductive Operation where
  | startDevice
  | pollDevice
  | searchDocs
  | getDoc
  | call (method : String) (endpoint : List Segment) (use : InputUse) (reaction : Reaction)
  deriving DecidableEq

end Tool

open Tool

/-- A tool: its name, what a user is told of it, its parameters in two groups, and what it does. -/
structure Tool where
  name : String
  description : String
  own : List Parameter
  input : List Parameter
  operation : Operation
  deriving DecidableEq

namespace Tool

/-- A required text parameter, the most common kind. -/
def required (name description : String) : Parameter := ⟨name, description, .text, true⟩

/-- A parameter that may be left out, or given as null. -/
def optional (name description : String) (kind : Kind) : Parameter :=
  ⟨name, description, kind, false⟩

/-- The parameter that names a project, by its identifier and not by its title. -/
def projectId : Parameter := required "project_id" "The project UUID"

/-- The parameter that names a server of a project, by its identifier. -/
def serverId : Parameter := required "server_id" "The MCP server UUID"

/-- The parameter that names a platform tool, by a word and not by a number. -/
def toolName : Parameter := required "tool_name" "Tool name (e.g. 'tavily')"

/-- The environments that an API key can be made for. -/
def environments : List String := ["development", "production"]

/-- The endpoint of a project's keys, with what follows it. -/
def keySegments (rest : List Segment) : List Segment := project (.fixed "api-keys" :: rest)

/-- The endpoint of a project's servers, with what follows it. -/
def serverSegments (rest : List Segment) : List Segment := project (.fixed "mcp-servers" :: rest)

/-- What follows a project's path for one of its servers. -/
def oneServer (rest : List Segment) : List Segment :=
  serverSegments (.identifier "server_id" :: rest)

/-- The endpoint of a project's platform tools, with what follows it. -/
def toolSegments (rest : List Segment) : List Segment := project (.fixed "tools" :: rest)

/-- The endpoint of a project's model configuration, of which a project has one or none. -/
def modelSegments : List Segment := project [.fixed "llm-config"]

/-- A tool that reads something that all projects share. It takes no arguments. -/
def reading (name description word : String) : Tool where
  name := name
  description := description
  own := []
  input := []
  operation := .call "GET" (dashboard [.fixed word]) .unused .passed

/-- A tool that reads something of a project, whose identifier is its only argument. -/
def readingProject (name description : String) (segments : List Segment) : Tool where
  name := name
  description := description
  own := [projectId]
  input := []
  operation := .call "GET" segments .unused .passed

/-- The warning after a project is created, about a key that is not shown a second time. -/
def projectWarning : String := "The encryption_key above is shown ONLY ONCE. Save it securely!"

/-- The warning after an API key is created, about a key that is not shown a second time. -/
def keyWarning : String := "The full_key above is shown ONLY ONCE. Save it securely!"

/-- The tools that authorize a device: one to begin a login and one to ask how it stands. -/
def deviceTools : List Tool := [
  { name := "astralform_device_code"
    description := "Start OAuth device authorization flow. Returns a user code for the user to enter at the verification URL."
    own := []
    input := []
    operation := .startDevice },
  { name := "astralform_device_token"
    description := "Poll for device authorization token. Call repeatedly until it returns a token or error."
    own := [required "device_code" "The device code from astralform_device_code"]
    input := []
    operation := .pollDevice }]

/-- The tools about the developer and the projects, from reading to deleting. -/
def projectTools : List Tool := [
  reading "astralform_whoami"
    "Get the current authenticated developer's profile. Returns email, name, and admin status."
    "me",
  reading "astralform_get_stats"
    "Get aggregate statistics for the developer: projects count, API keys count, conversations count."
    "stats",
  reading "astralform_list_projects"
    "List all Astralform projects for the authenticated developer." "projects",
  readingProject "astralform_get_project" "Get details for a specific project." (project []),
  { name := "astralform_create_project"
    description := "Create a new project. IMPORTANT: Returns an encryption_key that is shown ONLY ONCE. User must save it."
    own := []
    input := [required "name" "Name of the new project"]
    operation := .call "POST" (dashboard [.fixed "projects"]) .body (.warned projectWarning) },
  { name := "astralform_update_project"
    description := "Update a project's name."
    own := [projectId]
    input := [required "name" "New project name"]
    operation := .call "PATCH" (project []) .body .passed },
  { name := "astralform_delete_project"
    description := "Delete a project. WARNING: This is irreversible and deletes all project data."
    own := [projectId]
    input := []
    operation := .call "DELETE" (project []) .unused (.acknowledged "Project deleted") }]

/-- The tools about API keys: to list them, to create one and to revoke one. -/
def keyTools : List Tool := [
  readingProject "astralform_list_api_keys"
    "List API keys for a project. Only key prefixes are returned, never full keys."
    (keySegments []),
  { name := "astralform_create_api_key"
    description := "Create a new API key. IMPORTANT: Returns the full key ONLY ONCE. User must save it."
    own := [projectId]
    input := [required "name" "Name of the API key",
      optional "environment" "Key environment: development or production" (.choice environments true)]
    operation := .call "POST" (keySegments []) .body (.warned keyWarning) },
  { name := "astralform_revoke_api_key"
    description := "Revoke an API key. The key will no longer work."
    own := [projectId, required "key_id" "The API key UUID"]
    input := []
    operation := .call "DELETE" (keySegments [.identifier "key_id"]) .unused
      (.acknowledged "API key revoked") }]

/-- The tools about the model that a project uses, and about the providers to choose from. -/
def modelTools : List Tool := [
  reading "astralform_list_llm_providers"
    "List available LLM providers (OpenAI, Anthropic, Groq, Ollama, Platform)." "llm-providers",
  { name := "astralform_get_llm_config"
    description := "Get the current LLM configuration for a project."
    own := [projectId]
    input := []
    operation := .call "GET" modelSegments .unused
      (.passedIfFound "No LLM configuration set") },
  { name := "astralform_set_llm_config"
    description := "Set the LLM provider and model for a project."
    own := [projectId]
    input := [required "provider" "LLM provider id (e.g. openai, anthropic)",
      required "model" "Model id offered by the provider",
      optional "api_key" "Provider API key, required for BYOK providers" .text,
      optional "base_url" "Custom base URL for OpenAI-compatible providers" .text]
    operation := .call "PUT" modelSegments .body .passed },
  { name := "astralform_delete_llm_config"
    description := "Remove LLM configuration from a project."
    own := [projectId]
    input := []
    operation := .call "DELETE" modelSegments .unused
      (.acknowledged "LLM configuration removed") }]

/-- The tools about the servers of a project, and about the templates to make one from. -/
def serverTools : List Tool := [
  reading "astralform_list_mcp_templates"
    "List available MCP server templates (GitHub, Slack, etc.)." "mcp-templates",
  readingProject "astralform_list_mcp_servers" "List MCP servers configured for a project."
    (serverSegments []),
  { name := "astralform_add_mcp_server"
    description := "Add an MCP server to a project."
    own := [projectId]
    input := [required "name" "Display name for the MCP server",
      optional "template_id" "Template id to start from (see astralform_list_mcp_templates)" .text,
      optional "command" "Command to launch the server when not using a template" .text,
      optional "args" "Command arguments" .texts,
      optional "env_vars" "Environment variables passed to the server" .textMap]
    operation := .call "POST" (serverSegments []) .body .passed },
  { name := "astralform_update_mcp_server"
    description := "Update an MCP server's environment variables."
    own := [projectId, serverId]
    input := [optional "env_vars" "Replacement environment variables" .textMap]
    operation := .call "PATCH" (oneServer []) .body .passed },
  { name := "astralform_toggle_mcp_server"
    description := "Enable or disable an MCP server."
    own := [projectId, serverId]
    input := []
    operation := .call "POST" (oneServer [.fixed "toggle"]) .unused .passed },
  { name := "astralform_delete_mcp_server"
    description := "Remove an MCP server from a project."
    own := [projectId, serverId]
    input := []
    operation := .call "DELETE" (oneServer []) .unused (.acknowledged "MCP server removed") }]

/-- The tools about the platform tools of a project and about its use. -/
def platformTools : List Tool := [
  reading "astralform_list_platform_tools"
    "List available platform tools (Tavily search, etc.)." "platform-tools",
  readingProject "astralform_get_project_tools"
    "Get platform tool configuration for a project." (toolSegments []),
  { name := "astralform_update_project_tool"
    description := "Enable/disable a platform tool or set custom API key."
    own := [projectId, toolName]
    input := [optional "enabled" "Enable or disable the tool for this project" .flag,
      optional "api_key" "Custom API key for tools that need one" .text]
    operation := .call "PUT" (toolSegments [.identifier "tool_name"]) .body .passed },
  { name := "astralform_delete_project_tool"
    description := "Remove a project's tool override so platform defaults apply again."
    own := [projectId, toolName]
    input := []
    operation := .call "DELETE" (toolSegments [.identifier "tool_name"]) .unused
      (.acknowledged "Tool configuration removed") },
  { name := "astralform_get_analytics"
    description := "Get usage analytics for a project (conversations, tokens, tool usage)."
    own := [projectId]
    input := [optional "start_date" "Start date (YYYY-MM-DD)" .text,
      optional "end_date" "End date (YYYY-MM-DD)" .text]
    operation := .call "GET" (project [.fixed "analytics"]) .query .passed }]

/-- The tools about the documentation, which need no session. -/
def docsTools : List Tool := [
  { name := "astralform_search_docs"
    description := "Search Astralform documentation."
    own := [required "query" "Search query",
      optional "category" "Filter by category" (.choice (Docs.Category.all.map Docs.Category.name) false),
      optional "limit" "Maximum number of results (default 5)" .count]
    input := []
    operation := .searchDocs },
  { name := "astralform_get_doc"
    description := "Get the full content of a documentation page."
    own := [required "path" "Documentation path (e.g. '/ios-sdk/getting-started')"]
    input := []
    operation := .getDoc }]

/-- All tools, in the order in which they are described. Their names are distinct. -/
def catalogue : List Tool :=
  deviceTools ++ projectTools ++ keyTools ++ modelTools ++ serverTools ++ platformTools ++ docsTools

/-- The tool with a name, if there is one. Names are compared exactly. -/
def named? (name : String) : Option Tool := catalogue.find? (·.name == name)

/-- Texts in the order of their characters, by code points. -/
def sortNames (names : List String) : List String := names.mergeSort fun a b => decide (a ≤ b)

/-- The names of all tools, sorted, as a client is shown them. -/
def sortedNames : List String := sortNames (catalogue.map (·.name))

/-- All parameters of a tool: its own first, and then those of its input. -/
def parameters (tool : Tool) : List Parameter := tool.own ++ tool.input

/-- The names of the parameters that have to be given, sorted. -/
def requiredNames (tool : Tool) : List String :=
  sortNames ((tool.parameters.filter (·.isRequired)).map (·.name))

end Tool

end DashboardTools
