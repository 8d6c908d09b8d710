import DatePattern.Locale.Cldr
import DatePattern.Pattern.Cursor
import DatePattern.Pattern.Tokenizer
import DatePattern.Pattern.Written
import DatePattern.Process
import DatePattern.Program.Reading
import DatePattern.Reference
import DatePattern.Text.NormalForm
import DatePattern.Proofs.Backends
import DatePattern.Proofs.Boundaries
import DatePattern.Proofs.ContextCache
import DatePattern.Proofs.DefaultLocale
import DatePattern.Proofs.EmittedText
import DatePattern.Proofs.Independence
import DatePattern.Proofs.LocaleMemory
import DatePattern.Proofs.NameChecks
import DatePattern.Proofs.Outcomes
import DatePattern.Proofs.ProgramShape
import DatePattern.Proofs.RoundTrip
import DatePattern.Proofs.TableQueries
import DatePattern.Proofs.TokenCaching
import DatePattern.Proofs.Tokenizing
import DatePattern.Proofs.Unescaping
import DatePattern.Proofs.Pieces
import DatePattern.Proofs.Separators
import DatePattern.Proofs.ConcisePatterns
import DatePattern.Proofs.AddedNames
import DatePattern.Proofs.CacheContents
import DatePattern.Proofs.LargerCaches
import DatePattern.Proofs.ExampleTable
import DatePattern.Proofs.LocaleKeys
import DatePattern.Proofs.SystemLocale
import DatePattern.Proofs.LenientContexts
import DatePattern.Proofs.CanonicalTokens
import DatePattern.Proofs.MergedPrograms
import DatePattern.Proofs.ContextSpelling
import DatePattern.Proofs.Sanitizing
