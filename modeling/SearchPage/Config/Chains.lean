import SearchPage.Query.Basic
import SearchPage.Value
import SearchPage.Fault

/-!
# Selector chains

Every place the parser looks for something is named, and each name has a *chain*: the
selectors tried in order, the first one that matches anything winning, so newer or more
specific markup comes first. Changing what the parser finds means changing a chain, not
the parser.

A chain keeps its selectors as the plain values they were given as; only text is a
selector, and anything else cannot be applied. Chains are found by name, and asking for
a name that has no chain is a configuration fault.

## Main statements

* `get_override`: a chain just written is the chain found under its name.
-/

namespace SearchPage

/-- Selectors tried in order, as they were given. -/
abbrev Chain := List Value

/-- A chain as a query: text is a CSS selector, anything else cannot be applied. -/
def Chain.query (c : Chain) : Query :=
  c.map fun
    | .str s => .css s
    | _ => .unusable

/-- The chains the parser starts with, by name. -/
def defaultChainTexts : List (String × List String) := [
  ("containers", ["div#rso > div:not([tabindex=\"-1\"])", "div#rso > g-card", "div#rso > g-inner-card", "div#rso > g-section-with-header", "div#appbar div.rl_feature"]),
  ("whole_page_sub_containers", ["div#kp-wp-tab-overview > div"]),
  ("desktop_results", ["div.srg div.g", "div.g > div.rc", "div.g > div.tF2Cxc", "div.kp-blk.cUnQKe"]),
  ("mobile_results", ["div.mnr-c.xpd", "g-card.XqIXXe", "div.mnr-c.srg"]),
  ("site_links_candidates", ["div.g > div"]),
  ("site_links_result", ["div.tF2Cxc"]),
  ("site_links_table", ["table.jmjoTe"]),
  ("desktop_title", ["h3", "g-section-with-header g-link", "[role=\"heading\"]", "h2", "h1"]),
  ("mobile_title", ["div#wp-tabs-container [data-attrid=title]", "div#wp-tabs-container h2", "g-card-section .zTpPx.ellip", "div.ifM9O h3", "[role=\"heading\"]", "g-card .aDrpNd", "h3", "h2", "h1"]),
  ("description", ["div.LGOjhe span.e24Kjd", "div.BmP5tf div.MUxGbd", "div.IsZvec span.aCOpRe", "div.s > div > span.st"]),
  ("description_prefix", ["span.MUxGbd", "span.f"]),
  ("url", ["a.C8nzq[href]", "div.r a[href]", "g-link > a[href]", "div.yuRUbf a[href]", "h3 > a"]),
  ("amp_link", ["a.C8nzq"]),
  ("thumbnail", ["g-img.BA0A6c > img.rISBZc"]),
  ("video_thumbnail", ["div.Woharf.LQFTgb", "div.WfVh8d.Lw2oL", "span.vdur", "div.OIL2le"]),
  ("app_bar", ["div#appbar"]),
  ("column_1", ["div#center_col"]),
  ("column_2", ["div#rhs"]),
  ("bottom_extras", ["div#botstuff"]),
  ("total_results", ["div#result-stats"]),
  ("auto_correct", ["div#taw a#fprsl"]),
  ("did_you_mean", ["div#taw p.gqLncc.card-section a.gL9Hy"]),
  ("invalid_search", ["div#topstuff [role=heading]"]),
  ("related_searches", ["div#brs p.nVcaUb a", "div#bres div.DExtrc a.F3dFTe div.s75CSd", "div#bres a.k8XOCe div.s75CSd"]),
  ("knowledge_panel_entry", ["div.kp-wholepage", "div#kp-wp-tab-overview", "div#wp-tabs-container"]),
  ("knowledge_panel", ["div.kp-wholepage", "div.knowledge-panel", "div.kno-kp"]),
  ("knowledge_panel_title", ["div[data-attrid='title'] span", "h2[data-attrid='title']", "div.kno-ecr-pt", "div.qrShPb span"]),
  ("knowledge_panel_subtitle", ["div[data-attrid='subtitle'] span", "div.wwUB2c span"]),
  ("knowledge_panel_description", ["div.kno-rdesc span", "div[data-attrid='description'] span"]),
  ("ads", ["div#tads div.uEierd", "div#bottomads div.uEierd", "div[data-text-ad]"]),
  ("ad_title", ["div[role=\"heading\"]", "h3"]),
  ("ad_url", ["a[data-pcu]", "a[href]"]),
  ("ad_description", ["div.MUxGbd", "div.yDYNvb"]),
  ("answer_box", ["div.ifM9O", "div.LGOjhe", "div.xpdopen div.kp-blk:not(.cUnQKe)"]),
  ("answer_box_url", ["div.yuRUbf a[href]"]),
  ("answer_box_text", ["span.hgKElc", "div.LGOjhe span.e24Kjd", "div.kno-rdesc span"]),
  ("people_also_ask", ["div.related-question-pair", "div[jsname=\"yEVEE\"]", "div[data-q]"]),
  ("people_also_ask_question", ["div[role=\"button\"]", "span[jsname]", "div.JlqpRe"])
]

/-- Named chains, in the order the names were first given. -/
structure Chains where
  entries : List (Value × Chain)
  deriving Repr, Inhabited

namespace Chains

/-- The chains the parser starts with. -/
def initial : Chains :=
  ⟨defaultChainTexts.map fun (k, c) => (.str k, c.map .str)⟩

/-- The chain under a name. -/
def find? (cs : Chains) (k : Value) : Option Chain :=
  (cs.entries.find? fun (k', _) => k'.sameKey k).map (·.2)

/-- The chain under a name, or the fault of a name without one. -/
def getKey (cs : Chains) (k : Value) : Except Fault Chain :=
  if !k.isKey then throw .wrongKind
  else match cs.find? k with
    | some c => pure c
    | none => throw (.configuration ("No selector chain named '" ++ k.plainText ++ "'"))

/-- The chain under a name given as text. -/
def get (cs : Chains) (name : String) : Except Fault Chain := cs.getKey (.str name)

/-- The selector query under a name. -/
def query (cs : Chains) (name : String) : Except Fault Query :=
  Chain.query <$> cs.get name

/-- Entries with one chain written: in place when the name is there, at the end
otherwise. -/
def putChain : List (Value × Chain) → Value → Chain → List (Value × Chain)
  | [], k, c => [(k, c)]
  | (k', c') :: rest, k, c =>
    if k'.sameKey k then (k', c) :: rest else (k', c') :: putChain rest k c

/-- Replace or add the chain under a name. -/
def override (cs : Chains) (k : Value) (c : Chain) : Chains :=
  ⟨putChain cs.entries k c⟩

/-- Remove the chain under a name, if there is one. -/
def remove (cs : Chains) (k : Value) : Chains :=
  ⟨cs.entries.filter fun (k', _) => !k'.sameKey k⟩

/-- The number of chains. -/
def count (cs : Chains) : Nat := cs.entries.length

theorem find_putChain (es : List (Value × Chain)) (k : Value) (c : Chain)
    (hk : k.sameKey k = true) : ((putChain es k c).find? fun (k', _) => k'.sameKey k).map (·.2) = some c := by
  induction es with
  | nil => simp [putChain, hk]
  | cons e es ih =>
    obtain ⟨k', c'⟩ := e
    by_cases h : k'.sameKey k = true
    · simp [putChain, h]
    · simp [putChain, h, ih]

theorem get_override (cs : Chains) (name : String) (c : Chain) :
    (cs.override (.str name) c).get name = pure c := by
  have hk : (Value.str name).sameKey (.str name) = true := by simp [Value.sameKey]
  simp [get, getKey, Value.isKey, find?, override, find_putChain cs.entries _ c hk]

end Chains

end SearchPage
