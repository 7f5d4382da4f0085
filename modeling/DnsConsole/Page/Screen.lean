import DnsConsole.Login.Form
import DnsConsole.Session.Basic
import DnsConsole.Session.Storage
import DnsConsole.Url.Reference

/-!
# Screens

What the console shows, as the server writes it before any script runs: the session is read from a
storage that holds nothing.  The console has one route, its root; at any other path it says that the page
was not found.  The home screen has three tabs in a fixed order, whose panels hold only a text so far.
-/

namespace DnsConsole.Page

/-! ### Tabs -/

/-- A tab of the home screen. -/
inductive Tab
  | servers
  | zones
  | serverStatistics
  deriving DecidableEq, Repr

namespace Tab

/-- The tabs in the order of the tab bar. -/
def all : List Tab := [servers, zones, serverStatistics]

/-- The tab that is active at first. -/
def initial : Tab := servers

/-- What the button of a tab says. -/
def label : Tab → String
  | servers => "Servers"
  | zones => "Zones"
  | serverStatistics => "Server Statistics"

/-- What the panel of a tab says. -/
def placeholder : Tab → String
  | servers => "Server management tools and list go here."
  | zones => "Zone management section."
  | serverStatistics => "Performance graphs and metrics appear here."

theorem mem_all (t : Tab) : t ∈ all := by
  cases t <;> decide

end Tab

/-! ### Views -/

/-- The button of a tab. -/
def tabButton (active tab : Tab) : Node :=
  classed "button" (if active = tab then "tab-button tab-button--active" else "tab-button")
    [.text tab.label]

/-- The line at the top of the home screen. -/
def header (server : String) : Node :=
  classed "header" "homepage-header"
    [classed "div" "homepage-header__left"
      [classed "span" "homepage-header__icon" [.text "🏠"],
        .element "a" [.value "href" Session.root, .value "class" "homepage-header__home"]
          [.text "Home"],
        classed "span" "homepage-header__label" [.text "Server URL"],
        classed "span" "homepage-header__server" [.text server]],
      classed "button" "logout-button" [.text "Logout"]]

/-- The home screen of a session with a server, with one tab active. -/
def home (server : Option String) (active : Tab) : Node :=
  classed "div" "homepage"
    [header (server.getD ""),
      classed "nav" "homepage-tabs" (Tab.all.map (tabButton active) ++ [.marker]),
      classed "main" "homepage-content" [classed "div" "tab-panel" [.text active.placeholder]]]

/-- The home screen as the server writes it. -/
def serverHome (active : Tab) : Node :=
  home (Session.server? Session.Browserless.absent) active

/-- The screen that is shown until the liveness check has come out. -/
def checking : Node :=
  classed "div" "app-checking" [.text "Checking login..."]

/-- The screen for a login status. -/
def screen (status : Session.Status) (active : Tab) : Node :=
  match status.screen with
  | .checking => checking
  | .login => login
  | .home => serverHome active

/-- The root of the console. -/
def rootPage (status : Session.Status) (active : Tab) : Node :=
  classed "div" "app" [screen status active]

/-- Whether the console's one route matches a request URL. -/
def isRoot (url : String) : Bool :=
  Url.referenceSegments url == [[]]

/-- What the console shows at a request URL before it knows anything. -/
def app (url : String) : Node :=
  if isRoot url then rootPage Session.Status.initial Tab.initial else .text "Page not found."

end DnsConsole.Page
