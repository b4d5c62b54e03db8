import ShopTraffic.Chance.Table
import ShopTraffic.User

/-!
# Pages of the shop

* `Page` — the screens of the shopping app and the exit;
* `Page.screen` — a screen's name and identifier on a platform;
* `Page.links`, `Page.next` — where a page leads, with weights, and a draw among them. The exit leads
  nowhere, and no draw is made there.
-/

namespace ShopTraffic.Shop

open Chance

/-- A screen of the shopping app, or the way out. -/
inductive Page where
  | login
  | signup
  | main
  | category
  | search
  | detail
  | cart
  | checkout
  | result
  | profile
  | live
  | exit
  deriving DecidableEq, Repr

namespace Page

/-- Every page, the exit last. -/
def all : List Page :=
  [.login, .signup, .main, .category, .search, .detail, .cart, .checkout, .result, .profile, .live,
    .exit]

/-- The short name of a page. -/
def name : Page → String
  | .login => "login"
  | .signup => "signup"
  | .main => "main"
  | .category => "category"
  | .search => "search"
  | .detail => "detail"
  | .cart => "cart"
  | .checkout => "checkout"
  | .result => "result"
  | .profile => "profile"
  | .live => "live"
  | .exit => "exit"

/-- The stem of a page's class on mobile platforms. -/
def stem : Page → String
  | .login => "Login"
  | .signup => "Signup"
  | .main => "Main"
  | .category => "Category"
  | .search => "Search"
  | .detail => "ProductDetail"
  | .cart => "ShoppingCart"
  | .checkout => "Checkout"
  | .result => "BuyResult"
  | .profile => "Profile"
  | .live => "Live"
  | .exit => "Splash"

/-- The name and the path of a page on the web. -/
def webPage : Page → String × String
  | .login => ("loginPage", "/login")
  | .signup => ("signupPage", "/signup")
  | .main | .exit => ("indexPage", "/")
  | .category => ("categoryPage", "/category")
  | .search => ("searchPage", "/search")
  | .detail => ("productPage", "/product")
  | .cart => ("cartPage", "/cart")
  | .checkout => ("checkoutPage", "/checkout")
  | .result => ("resultPage", "/result")
  | .profile => ("profilePage", "/profile")
  | .live => ("livePage", "/live")

/-- The name and the identifier of a page's screen: a class and its qualified name on mobile
platforms, a page and its address on the web. -/
def screen (p : Page) : Platform → String × String
  | .android => (p.stem ++ "Activity", "com.example.shopping." ++ p.stem ++ "Activity")
  | .ios => (p.stem ++ "VC", "Shopping." ++ p.stem ++ "VC")
  | .web => (p.webPage.1, "https://shop.example.com" ++ p.webPage.2)

/-- The pages a page leads to, with their weights. -/
def links : Page → List (Page × Nat)
  | .login => [(.main, 93), (.signup, 6), (.exit, 1)]
  | .signup => [(.main, 70), (.login, 20), (.exit, 10)]
  | .main =>
    [(.search, 12), (.category, 18), (.live, 25), (.detail, 43), (.cart, 12), (.profile, 6),
      (.exit, 1)]
  | .category =>
    [(.search, 12), (.detail, 45), (.main, 20), (.profile, 5), (.cart, 16), (.exit, 1)]
  | .search => [(.category, 12), (.main, 15), (.detail, 30), (.exit, 1)]
  | .detail =>
    [(.search, 5), (.detail, 15), (.category, 17), (.main, 20), (.cart, 10), (.checkout, 3),
      (.exit, 1)]
  | .cart =>
    [(.main, 25), (.category, 21), (.detail, 10), (.checkout, 5), (.profile, 16), (.exit, 1)]
  | .checkout => [(.cart, 25), (.result, 20), (.exit, 1)]
  | .result => [(.main, 40), (.profile, 40), (.exit, 1)]
  | .profile => [(.main, 20), (.category, 20), (.cart, 15), (.login, 5), (.exit, 1)]
  | .live => [(.main, 20), (.detail, 80), (.exit, 1)]
  | .exit => []

/-- Draws the page that follows. -/
def next (p : Page) (s : Source) : Page × Source :=
  if h : 0 < weightSum p.links then Table.draw ⟨p.links, h⟩ s else (.exit, s)

/-- A page leads only to the pages of its links, and the exit to itself. -/
theorem next_mem (p : Page) (s : Source) :
    (p.next s).1 = .exit ∨ ∃ w, 0 < w ∧ ((p.next s).1, w) ∈ p.links := by
  unfold next
  split
  · next h => exact .inr (Table.draw_mem ⟨p.links, h⟩ s)
  · exact .inl rfl

end Page

end ShopTraffic.Shop
