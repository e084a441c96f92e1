import AccessBaseline.Csv
import AccessBaseline.IoFault
import AccessBaseline.Json.Fault
import AccessBaseline.Moment
import AccessBaseline.Url.Fault

/-! What can go wrong in a run, by cause. Every failure names the resource it is about, and none is
retried. -/
namespace AccessBaseline

inductive ConfigFault where
  | emptyRoleName
  | duplicateRole (name : String)
  | emptyGroupName
  | apiUrlUnset
  | apiUrlInvalid (text : String) (cause : UrlFault)
  | apiUrlScheme (scheme : String)
  | apiUrlNotBase (text : String)
  | described (text : String)
  deriving DecidableEq

def ConfigFault.message : ConfigFault → String
  | emptyRoleName => "role name must not be empty"
  | duplicateRole name => "role '" ++ name ++ "' is declared more than once"
  | emptyGroupName => "groupName must not be empty"
  | apiUrlUnset => "apiUrl is not set"
  | apiUrlInvalid text cause => "apiUrl '" ++ text ++ "' is not a valid URL: " ++ cause.message
  | apiUrlScheme scheme => "apiUrl must use http or https, got '" ++ scheme ++ "'"
  | apiUrlNotBase text => "apiUrl '" ++ text ++ "' cannot be used as a base URL"
  | described text => text

inductive TransportFault where
  /-- The request has a header or a URL that cannot be sent. -/
  | malformed (url? : Option String) (reason : String)
  | unreachable (url : String) (cause : IoFault)
  | dropped (url : String)
  | cutShort
  | other (text : String) (reasons : List String)
  deriving DecidableEq

namespace TransportFault

def message : TransportFault → String
  | malformed url? _ => "builder error" ++ (url?.map fun u => " for url (" ++ u ++ ")").getD ""
  | unreachable url _ | dropped url => "error sending request for url (" ++ url ++ ")"
  | cutShort => "error decoding response body"
  | other text _ => text

def causes : TransportFault → List String
  | malformed _ reason => [reason]
  | unreachable _ cause => ["client error (Connect)", "tcp connect error", cause.message]
  | dropped _ => ["client error (SendRequest)", "connection closed before message completed"]
  | cutShort =>
    ["request or response body error", "error reading a body from connection",
      "end of file before message length reached"]
  | other _ reasons => reasons

end TransportFault

inductive Failure where
  | configRead (path : String) (cause : IoFault)
  | configParse (path : String) (cause : Json.Error)
  | invalidConfig (cause : ConfigFault)
  | missingCredential (name : String)
  | unknownScope (text : String)
  | missingRequiredRole (name : String)
  | roleNotFound (name : String)
  | groupNotFound (name : String)
  | transport (method url : String) (cause : TransportFault)
  | unexpectedStatus (method url : String) (status : Nat) (body : String)
  | undecodable (url : String) (cause : Json.Error)
  | step (action key : String) (cause : Failure)
  | csv (cause : Csv.Fault)
  | io (cause : IoFault)
  | timeFormat (cause : Moment.Fault)

namespace Failure

def message : Failure → String
  | configRead path cause => "failed to read config file " ++ path ++ ": " ++ cause.message
  | configParse path cause => "failed to parse config file " ++ path ++ ": " ++ cause.message
  | invalidConfig cause => "invalid configuration: " ++ cause.message
  | missingCredential name => "environment variable " ++ name ++ " is not set"
  | unknownScope text => "invalid access type: " ++ text
  | missingRequiredRole name => "required role '" ++ name ++ "' not found in available roles"
  | roleNotFound name => "role '" ++ name ++ "' not found in available roles after creation step"
  | groupNotFound name => "group '" ++ name ++ "' not found after creation step"
  | transport method url cause => "request " ++ method ++ " " ++ url ++ " failed: " ++ cause.message
  | unexpectedStatus method url status body =>
    "unexpected status " ++ toString status ++ " from " ++ method ++ " " ++ url ++ ": " ++ body
  | undecodable url cause => "failed to decode response from " ++ url ++ ": " ++ cause.message
  | step action key cause => action ++ " failed for " ++ key ++ ": " ++ cause.message
  | csv cause => "seed export failed: " ++ cause.message
  | io cause => "I/O error: " ++ cause.message
  | timeFormat cause => "time formatting error: " ++ cause.message

/-- The messages of a failure and of all that caused it, outermost first. -/
def chain : Failure → List String
  | f@(configRead _ cause) => [f.message, cause.message]
  | f@(configParse _ cause) | f@(undecodable _ cause) => [f.message, cause.message]
  | f@(transport _ _ cause) => f.message :: cause.message :: cause.causes
  | f@(step _ _ cause) => f.message :: cause.chain
  | f@(csv cause) => [f.message, cause.message]
  | f@(io cause) => [f.message, cause.message]
  | f@(timeFormat cause) => [f.message, cause.message]
  | f => [f.message]

def during (action key : String) (cause : Failure) : Failure := .step action key cause

/-- Whether the failure concerns what was there before the first change could be made. -/
def isStartup : Failure → Bool
  | configRead .. | configParse .. | invalidConfig _ | missingCredential _ | unknownScope _
  | missingRequiredRole _ => true
  | _ => false

def isUnexpectedStatus : Failure → Bool
  | unexpectedStatus .. => true
  | step _ _ cause => cause.isUnexpectedStatus
  | _ => false

end Failure

end AccessBaseline
