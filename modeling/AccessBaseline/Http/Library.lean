import AccessBaseline.Failure
import AccessBaseline.Http.Exchange
import AccessBaseline.Url.Parser

/-! What is left to libraries: how the text of a URL is read, and which requests are not sent at all. The
theory of the tools holds for any library that keeps to what is asked of it; the tools run with the standard one. -/
namespace AccessBaseline.Http

def isHeaderText (s : String) : Bool :=
  s.toList.all fun c => c == '\t' || (32 ≤ c.toNat && c.toNat ≠ 127)

/-- The length in bytes of the longest URL that can be sent. -/
def longestUrl : Nat := 65534

/-- Whether a request can name a host. More characters can stand in the hosts of URLs. -/
def isHostText (s : String) : Bool := s.toList.all fun c => c ∉ ['"', '`', '\x7b', '\x7d']

/-- Why a request is not sent, if it is not: for its token, its scheme or its URL, in this order. -/
def Request.refusal? (q : Request) : Option TransportFault :=
  let url := q.url.withoutUserinfo
  if !isHeaderText q.bearer then
    some (.malformed none "failed to parse header value")
  else if url.scheme ≠ "http" ∧ url.scheme ≠ "https" then
    some (.malformed (some url.text) "URL scheme is not allowed")
  else if longestUrl < url.text.utf8ByteSize ∨ !(url.host?.map Url.Host.text).all isHostText then
    some (.malformed (some url.text) "Parsed Url is not a valid Uri")
  else none

theorem Request.refusal?_eq_none_iff {q : Request} :
    q.refusal? = none ↔ isHeaderText q.bearer = true ∧ (q.url.scheme = "http" ∨ q.url.scheme = "https") ∧
      q.url.withoutUserinfo.text.utf8ByteSize ≤ longestUrl ∧
      (q.url.host?.map Url.Host.text).all isHostText = true := by
  have hscheme : q.url.withoutUserinfo.scheme = q.url.scheme := rfl
  have hhost : q.url.withoutUserinfo.host? = q.url.host? := rfl
  simp only [refusal?, hscheme, hhost]
  grind

structure Library where
  readUrl : String → Except UrlFault Url
  refusal? : Request → Option TransportFault

namespace Library

def standard : Library := ⟨Url.parse, Request.refusal?⟩

/-- Whether the URLs of the web have segments, as the standard of URLs asks. -/
def ReadsSegments (library : Library) : Prop :=
  ∀ text url, library.readUrl text = .ok url → url.scheme = "http" ∨ url.scheme = "https" →
    url.cannotBeBase = false

end Library

end AccessBaseline.Http
