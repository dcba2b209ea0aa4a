import DaemonReply.Record.Parse
import DaemonReply.Value.Integer

/-!
# The account manager

A reply about the account manager holds at most one meaningful `<acct_mgr_info>` block; if there
are several, the last one counts. Its flags are written as bare elements such as
`<have_credentials/>`, so their presence alone sets them. Every block is kept.
-/

namespace DaemonReply

open Value

/-- The account manager that the daemon may be attached to. -/
structure AccountManager where
  name : String := ""
  url : String := ""
  haveCredentials : Bool := false
  cookieRequired : Bool := false
  cookieFailureUrl : String := ""
  deriving DecidableEq, Repr, Inhabited

namespace AccountManager

/-- Whether the daemon is attached to an account manager. -/
def isAttached (a : AccountManager) : Bool :=
  !a.url.isEmpty

/-- The fields of an account manager. -/
inductive Field where
  | name
  | url
  | haveCredentials
  | cookieRequired
  | cookieFailureUrl
  deriving DecidableEq, Repr

/-- The names of the fields. -/
def fields : FieldTable Field where
  entries :=
    [("acct_mgr_name", .name), ("acct_mgr_url", .url), ("have_credentials", .haveCredentials),
      ("cookie_required", .cookieRequired), ("cookie_failure_url", .cookieFailureUrl)]

/-- Sets a field from its text. -/
def set (a : AccountManager) (field : Field) (text : String) : AccountManager :=
  match field with
  | .name => { a with name := text }
  | .url => { a with url := text }
  | .haveCredentials => { a with haveCredentials := presenceFlag text }
  | .cookieRequired => { a with cookieRequired := presenceFlag text }
  | .cookieFailureUrl => { a with cookieFailureUrl := text }

/-- The boundary of the account manager's description. -/
def boundary : String := "acct_mgr_info"

/-- How account managers are built. -/
def family : RecordFamily AccountManager AccountManager where
  boundary := boundary
  blank := {}
  assign a name text :=
    match fields.find? name with
    | some field => { value := a.set field text }
    | none => { value := a }
  complete a := some a

/-- The account manager in a reply, if there is one, or what is wrong with its markup. -/
def tryParse (reply : String) : Except Markup.ScanError (Option AccountManager) :=
  (family.tryParse reply).map List.getLast?

/-- The account manager in a reply; broken markup yields none. -/
def parse (reply : String) : Logged (Option AccountManager) :=
  let parsed := family.parseFor .accountManager reply
  ⟨parsed.value.getLast?, parsed.log⟩

end AccountManager

end DaemonReply
