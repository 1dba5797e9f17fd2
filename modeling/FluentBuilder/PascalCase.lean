import FluentBuilder.Text
import FluentBuilder.Unicode.LetterCase
import FluentBuilder.Unicode.Cluster

namespace FluentBuilder.PascalCase

open Unicode

/-- Changes under one case map only, the lower one. -/
def isUpper (cluster : Text) : Bool :=
  upperText cluster != lowerText cluster && cluster == upperText cluster

/-- Changes under one case map only, the upper one. -/
def isLower (cluster : Text) : Bool :=
  upperText cluster != lowerText cluster && cluster == lowerText cluster

def isDigit (cluster : Text) : Bool :=
  cluster.all Char.isDigit

def isSeparator (cluster : Text) : Bool :=
  cluster == ['_'] || cluster == ['-'] || cluster == [' ']

def endsWord (cluster : Text) : List Text → Bool
  | [] => false
  | next :: more =>
    isLower cluster && isUpper next ||
    isLower cluster && isDigit next ||
    isUpper cluster && isDigit next ||
    isDigit cluster && isLower next ||
    isDigit cluster && isUpper next ||
    -- the last of several capitals goes to the word behind them
    isUpper cluster && isUpper next && more.head?.any isLower

/-- The words that clusters form; some may be empty. So `parseURLs2` has the words `parse`, `UR`, `Ls`
and `2`. -/
def words : List Text → List Text
  | [] => [[]]
  | cluster :: rest =>
    if isSeparator cluster then [] :: words rest
    else if endsWord cluster rest then cluster :: words rest
    else match words rest with
      | [] => [cluster]
      | word :: more => (cluster ++ word) :: more

def capitalizeWord : Text → Text
  | [] => []
  | c :: rest => upperCase c ++ lowerText rest

def convert (name : Text) : Text :=
  (words (clusters name)).flatMap capitalizeWord

end FluentBuilder.PascalCase
