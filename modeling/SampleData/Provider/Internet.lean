import SampleData.Provider.Personal
import SampleData.Provider.Stocked

/-! # Internet data

Profile links, pictures, hashtags and user agents. Links are made of English user names whatever the locale, so
the bundle of the provider is the English personal one.
-/
namespace SampleData.Internet

def emojis : Table String :=
  ⟨":+1:", [":blush:", ":cat:", ":coffee:", ":fire:", ":heart:", ":kissing:", ":laughing:",
   ":rocket:", ":smile:", ":sunglasses:", ":tada:", ":thinking:", ":wink:"]⟩

def imageKeywords : Table String :=
  ⟨"cat", ["girl", "boy", "beauty", "nature", "woman", "man", "tech", "space", "science"]⟩

def generalTags : Table String :=
  ⟨"#daily", ["#instagood", "#nice", "#photooftheday", "#sky"]⟩

def girlsTags : Table String :=
  ⟨"#beautiful", ["#girl", "#girls", "#makeup", "#pretty"]⟩

def loveTags : Table String :=
  ⟨"#couple", ["#hugs", "#kisses", "#love", "#romance"]⟩

def boysTags : Table String :=
  ⟨"#beard", ["#boy", "#boys", "#guy", "#man"]⟩

def friendsTags : Table String :=
  ⟨"#bestfriends", ["#bff", "#friends", "#fun", "#together"]⟩

def familyTags : Table String :=
  ⟨"#brother", ["#family", "#home", "#parents", "#sister"]⟩

def natureTags : Table String :=
  ⟨"#forest", ["#mountains", "#nature", "#sunset", "#trees"]⟩

def travelTags : Table String :=
  ⟨"#adventure", ["#explore", "#travel", "#trip", "#wanderlust"]⟩

def carsTags : Table String :=
  ⟨"#car", ["#cargram", "#carporn", "#drive", "#speed"]⟩

def sportTags : Table String :=
  ⟨"#fitness", ["#gym", "#run", "#sport", "#workout"]⟩

def tumblrTags : Table String :=
  ⟨"#aesthetic", ["#grunge", "#indie", "#pastel", "#tumblr"]⟩

def topLevelDomains : Table String :=
  ⟨".com", [".info", ".io", ".net", ".org", ".ru", ".de"]⟩

def subreddits : Table String :=
  ⟨"/r/aww", ["/r/books", "/r/flask", "/r/funny", "/r/learnprogramming", "/r/movies", "/r/music",
   "/r/python", "/r/rust", "/r/science", "/r/worldnews"]⟩

def nsfwSubreddits : Table String :=
  ⟨"/r/nsfw", ["/r/nsfw_gifs", "/r/nsfw_wtf"]⟩

def userAgents : Table String :=
  ⟨"Mozilla/5.0 (X11; Ubuntu; Linux x86_64; rv:15.0) Gecko/20100101 Firefox/15.0.1", [
   "Mozilla/5.0 (Windows NT 10.0; Win64; x64) AppleWebKit/537.36 (KHTML, like Gecko) Chrome/58.0.3029.110 Safari/537.36",
   "Mozilla/5.0 (Macintosh; Intel Mac OS X 10_12_5) AppleWebKit/603.2.4 (KHTML, like Gecko) Version/10.1.1 Safari/603.2.4",
   "Mozilla/5.0 (iPhone; CPU iPhone OS 10_3 like Mac OS X) AppleWebKit/603.1.30 (KHTML, like Gecko) Mobile/14E277",
   "Opera/9.80 (Windows NT 6.1; U; en) Presto/2.10.289 Version/12.01"]⟩

def protocols : Table String :=
  ⟨"http", ["https"]⟩

def imageCategories : Table ImageCategory :=
  ⟨.buildings, [.food, .nature, .people, .technology, .objects]⟩

def tags : HashtagCategory → Table String
  | .general => generalTags
  | .girls => girlsTags
  | .love => loveTags
  | .boys => boysTags
  | .friends => friendsTags
  | .family => familyTags
  | .nature => natureTags
  | .travel => travelTags
  | .cars => carsTags
  | .sport => sportTags
  | .tumblr => tumblrTags

def extent (width height : UInt32) : String := toString width.toNat ++ "x" ++ toString height.toNat

variable {σ : Type} [WordSource σ]

def emoji : StateM σ String := Random.choose emojis

def imagePlaceholder (width height : UInt32) : String :=
  "http://placehold.it/" ++ extent width height

def stockImage (category : Option ImageCategory) (width height : UInt32) : StateM σ String := do
  let category ← match category with
    | some c => pure c
    | none => Random.choose imageCategories
  return "https://source.unsplash.com/category/" ++ OptionSet.name category ++ "/"
    ++ extent width height

def imageByKeyword (keyword : Option String) : StateM σ String := do
  let keyword ← match keyword with
    | some k => pure k
    | none => Random.choose imageKeywords
  return "https://source.unsplash.com/weekly?" ++ keyword

def hashtags (quantity : Nat) (category : HashtagCategory) : StateM σ (List String) :=
  Random.times quantity (Random.choose (tags category))

def twitter (names : Bundle) (gender : Gender) : Gen σ String := do
  return "http://twitter.com/" ++ (← Personal.usernameFrom names gender)

def facebook (names : Bundle) (gender : Gender) : Gen σ String := do
  return "https://facebook.com/" ++ (← Personal.usernameFrom names gender)

def homePage (names : Bundle) (gender : Gender) : Gen σ String := do
  let user ← Personal.usernameFrom names gender
  return "http://www." ++ user ++ (← Gen.draw (Random.choose topLevelDomains))

def subreddit (nsfw full : Bool) : StateM σ String := do
  let path ← Random.choose (if nsfw then nsfwSubreddits else subreddits)
  return if full then "http://www.reddit.com" ++ path else path

def userAgent : StateM σ String := Random.choose userAgents

def protocol : StateM σ String := Random.choose protocols

inductive Call where
  | emoji
  | imagePlaceholder (width height : UInt32)
  | stockImage (category : Option ImageCategory) (width height : UInt32)
  | imageByKeyword (keyword : Option String)
  | hashtags (quantity : Nat) (category : HashtagCategory)
  | twitter (gender : Gender)
  | facebook (gender : Gender)
  | homePage (gender : Gender)
  | subreddit (nsfw full : Bool)
  | userAgent
  | protocol

def perform (names : Bundle) : Call → Gen σ Json
  | .emoji => (Gen.draw emoji).text
  | .imagePlaceholder width height => pure (.str (imagePlaceholder width height))
  | .stockImage category width height => (Gen.draw (stockImage category width height)).text
  | .imageByKeyword keyword => (Gen.draw (imageByKeyword keyword)).text
  | .hashtags quantity category => (Gen.draw (hashtags quantity category)).texts
  | .twitter gender => (twitter names gender).text
  | .facebook gender => (facebook names gender).text
  | .homePage gender => (homePage names gender).text
  | .subreddit nsfw full => (Gen.draw (subreddit nsfw full)).text
  | .userAgent => (Gen.draw userAgent).text
  | .protocol => (Gen.draw protocol).text

def fields : List (String × Call) :=
  [("emoji", .emoji),
   ("facebook", .facebook .female),
   ("hashtags", .hashtags 4 .general),
   ("home_page", .homePage .female),
   ("image_by_keyword", .imageByKeyword none),
   ("image_placeholder", .imagePlaceholder 400 300),
   ("protocol", .protocol),
   ("stock_image", .stockImage none 1900 1080),
   ("subreddit", .subreddit false false),
   ("twitter", .twitter .female),
   ("user_agent", .userAgent)]

end SampleData.Internet
