import AccessBaseline.Console.FileTree
import AccessBaseline.Console.Program
import AccessBaseline.Http.Message
import AccessBaseline.Identifier
import Std.Async.DNS
import Std.Async.TCP
import Std.Time.DateTime.Timestamp

/-! The tools on a real system. The name of the executable tells which tool it is; under any other
name the first argument does. Connections are plain ones. -/
namespace AccessBaseline.Console

def faultNumber? : IO.Error → Option Nat
  | .alreadyExists _ n _ | .otherError n _ | .resourceBusy n _ | .resourceVanished n _
  | .unsupportedOperation n _ | .hardwareFault n _ | .unsatisfiedConstraints n _
  | .illegalOperation n _ | .protocolError n _ | .timeExpired n _ | .interrupted _ n _
  | .noFileOrDirectory _ n _ | .invalidArgument _ n _ | .permissionDenied _ n _
  | .resourceExhausted _ n _ | .inappropriateType _ n _ | .noSuchThing _ n _ =>
    some n.toInt32.toInt.natAbs
  | .unexpectedEof | .userError _ => none

def fault (e : IO.Error) : IoFault := .system ((faultNumber? e).getD 5)

def attemptIO (action : IO α) : IO (Except IoFault α) := do
  match ← action.toBaseIO with
  | .ok a => return .ok a
  | .error e => return .error (fault e)

def readText (path : String) : IO (Except IoFault String) := do
  match ← attemptIO (IO.FS.readBinFile path) with
  | .error e => return .error e
  | .ok bytes =>
    match String.fromUTF8? bytes with
    | some text => return .ok text
    | none => return .error .notText

def createDirectory (path : String) : IO (Except IoFault Unit) := do
  match ← attemptIO (IO.FS.createDir path) with
  | .ok () => return .ok ()
  | .error fault =>
    match ← attemptIO (IO.FS.realPath path) with
    | .ok real => if ← real.isDir then return .ok () else return .error fault
    | .error _ => return .error fault

partial def createDirectories (path : String) : IO (Except IoFault Unit) := do
  if path = "" then return .ok ()
  match ← createDirectory path with
  | .error .notFound =>
    match ← createDirectories (FileTree.above path) with
    | .ok () => createDirectory path
    | .error fault => return .error fault
  | result => return result

open Std.Async Std.Net

partial def receiveAll (socket : TCP.Socket.Client) (received : List UInt8) : IO (List UInt8) := do
  match ← (socket.recv? 65536).block with
  | none => return received
  | some bytes => receiveAll socket (received ++ bytes.toList)

def connectTo (address : IPAddr) (port : UInt16) : IO TCP.Socket.Client := do
  let socket ← TCP.Socket.Client.mk
  let target : SocketAddress :=
    match address with
    | .v4 a => .v4 ⟨a, port⟩
    | .v6 a => .v6 ⟨a, port⟩
  (socket.connect target).block
  return socket

def connectToAny (port : UInt16) (last : IoFault) : List IPAddr → IO (Except IoFault TCP.Socket.Client)
  | [] => return .error last
  | address :: rest => do
    match ← attemptIO (connectTo address port) with
    | .ok socket => return .ok socket
    | .error e => connectToAny port e rest

def exchange (request : Http.Request) : IO Http.Delivery := do
  if request.url.scheme ≠ "http" then return .unreachable .unsupported
  let port := request.url.port?.getD 80
  let host := (request.url.host?.map Url.Host.text).getD ""
  match ← attemptIO (DNS.getAddrInfo host (toString port)).block with
  | .error e => return .unreachable e
  | .ok addresses =>
    match ← connectToAny port.toUInt16 .notFound addresses.toList with
    | .error e => return .unreachable e
    | .ok socket =>
      match ← attemptIO (socket.send request.text.toUTF8).block with
      | .error _ => return .dropped
      | .ok () =>
        match ← attemptIO (receiveAll socket []) with
        | .error _ => return .dropped
        | .ok bytes => return Http.Reply.delivery bytes

def currentTime : IO Moment := do
  let nanos := (← Std.Time.Timestamp.now).toNanosecondsSinceUnixEpoch.val
  return ⟨nanos / 1000000000, (nanos % 1000000000).toNat, 0⟩

def freshId : IO String := do
  return Identifier.text (← IO.getRandomBytes 16).toList

def answer : (c : SystemCall) → IO c.Answer
  | .readText path => readText path
  | .createDirectories path => createDirectories path
  | .writeText path text => attemptIO (IO.FS.writeFile path text)
  | .exchange request => exchange request
  | .now => currentTime
  | .freshIds count => (List.range count).mapM fun _ => freshId
  | .print text => do
    let out ← IO.getStdout
    out.putStr text
    out.flush
  | .printError text => do (← IO.getStderr).putStr text

def variableNames : List String :=
  [Log.variableName, "NO_COLOR", "CLICOLOR", "CLICOLOR_FORCE", Setting.configVariable,
    AccessToken.variableName, "HOME", "USER"]

def environment : IO Environment :=
  variableNames.filterMapM fun name => do
    return (← IO.getEnv name).map (name, ·)

def start (tool : Tool) (args : List String) : IO UInt32 := do
  let surroundings := ⟨← environment, ← (← IO.getStdout).isTty⟩
  let code ← (run tool surroundings args).perform answer fun _ => pure ()
  return code.toUInt32

end AccessBaseline.Console

open AccessBaseline.Console in
def main (args : List String) : IO UInt32 := do
  match (← IO.appPath).fileName.bind Tool.named?, args with
  | some tool, args => start tool args
  | none, name :: args =>
    match Tool.named? name with
    | some tool => start tool args
    | none =>
      IO.eprintln ("unknown tool: " ++ name)
      return 2
  | none, [] =>
    IO.eprintln ("one of these is needed: " ++ ", ".intercalate (Tool.all.map Tool.name))
    return 2
